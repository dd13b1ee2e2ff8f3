import Mathlib.Logic.Function.Basic
import QubesAdminLinux.Lib.Program

/-! # Environments with components

The environment of a program keeps a state that falls into components.  Each call is about one of them:
only its state decides on the answer, and only it may change.

* **`Program.serve`** — a program run in such an environment; `serve_iff` — its trace.
* **`Proc.serve_of_about`** — a process whose calls are about one component depends on this component and
  changes no other one.
* **`serve_runAll_again`** — processes about different components, one after the other: if none of them
  has anything to do twice, the whole has nothing to do twice. -/

namespace QubesAdminLinux

/-- An environment whose state falls into components. -/
structure Surroundings {κ : Type} (State : κ → Type) {Call : Type} (Reply : Call → Type) where
  /-- The component that a call is about. -/
  about : Call → κ
  /-- The answer, and the new state of the component. -/
  answer : (c : Call) → State (about c) → Reply c × State (about c)

variable {κ : Type} [DecidableEq κ] {State : κ → Type} {Call : Type} {Reply : Call → Type}

/-! ## Served programs -/

namespace Program

variable {α β : Type} (env : Surroundings State Reply)

/-- Run a program; the state of the environment changes with each call. -/
def serve : Program Call Reply α → ((k : κ) → State k) → α × ((k : κ) → State k)
  | .pure a, m => (a, m)
  | .call c next, m =>
      let answer := env.answer c (m (env.about c))
      serve (next answer.1) (Function.update m (env.about c) answer.2)

/-- The second part is served in the state that the first part leaves. -/
theorem serve_bind (p : Program Call Reply α) (f : α → Program Call Reply β) (m : (k : κ) → State k) :
    serve env (p.bind f) m = serve env (f (serve env p m).1) (serve env p m).2 := by
  induction p generalizing m with
  | pure a => rfl
  | call c next ih => exact ih _ _

/-- A trace with the answers of the environment takes its state from `m` to `m'`. -/
def Served (m : (k : κ) → State k) : List (Event Reply) → ((k : κ) → State k) → Prop
  | [], m' => m' = m
  | e :: t, m' =>
      e.reply = (env.answer e.call (m (env.about e.call))).1 ∧
        Served (Function.update m (env.about e.call) (env.answer e.call (m (env.about e.call))).2) t m'

variable {env}

/-- Without events, nothing changes. -/
@[simp] theorem served_nil {m m' : (k : κ) → State k} : Served env m [] m' ↔ m' = m := Iff.rfl

/-- A program is served by the trace of a run. -/
theorem serve_iff {p : Program Call Reply α} {m m' : (k : κ) → State k} {a : α} :
    serve env p m = (a, m') ↔ ∃ t, Runs p t a ∧ Served env m t m' := by
  induction p generalizing m with
  | pure b =>
      rw [serve, Prod.mk.injEq]
      constructor
      · rintro ⟨rfl, rfl⟩
        exact ⟨[], .pure b, rfl⟩
      · rintro ⟨t, hrun, hserved⟩
        obtain ⟨rfl, rfl⟩ := runs_pure.mp hrun
        exact ⟨rfl, hserved.symm⟩
  | call c next ih =>
      rw [serve, ih]
      constructor
      · rintro ⟨t, hrun, hserved⟩
        exact ⟨⟨c, _⟩ :: t, runs_call.mpr ⟨_, t, rfl, hrun⟩, rfl, hserved⟩
      · rintro ⟨t, hrun, hserved⟩
        obtain ⟨r, t', rfl, hnext⟩ := runs_call.mp hrun
        obtain ⟨hreply, hrest⟩ := hserved
        dsimp only at hreply
        subst hreply
        exact ⟨t', hnext, hrest⟩

/-- Calls about one component change no other one. -/
theorem Served.of_ne {k : κ} {t : List (Event Reply)} (hall : ∀ e ∈ t, env.about e.call = k)
    {m m' : (k : κ) → State k} (h : Served env m t m') {j : κ} (hj : j ≠ k) : m' j = m j := by
  induction t generalizing m with
  | nil => rw [served_nil.mp h]
  | cons e t ih =>
      have hne : j ≠ env.about e.call := fun heq => hj (heq.trans (hall e List.mem_cons_self))
      rw [ih (fun e' he' => hall e' (List.mem_cons_of_mem _ he')) h.2, Function.update_of_ne hne]

/-- Calls about one component are answered alike where this component is the same. -/
theorem Served.congr {k : κ} {t : List (Event Reply)} (hall : ∀ e ∈ t, env.about e.call = k)
    {m m' n : (k : κ) → State k} (h : Served env m t m') (hmn : n k = m k) :
    Served env n t (Function.update n k (m' k)) := by
  induction t generalizing m n with
  | nil =>
      rw [served_nil.mp h, served_nil, ← hmn, Function.update_eq_self]
  | cons e t ih =>
      obtain rfl := hall e List.mem_cons_self
      obtain ⟨hreply, hrest⟩ := h
      refine ⟨by rw [hmn]; exact hreply, ?_⟩
      rw [hmn]
      have hnext := ih (fun e' he' => hall e' (List.mem_cons_of_mem _ he')) hrest
        (n := Function.update n (env.about e.call) (env.answer e.call (m (env.about e.call))).2)
        (by rw [Function.update_self, Function.update_self])
      rwa [Function.update_idem] at hnext

end Program

/-! ## Served processes -/

namespace Proc

variable {σ ε α : Type} (env : Surroundings State Reply)

/-- Run a process from state `s`. -/
def serve (x : Proc Call Reply σ ε α) (s : σ) (m : (k : κ) → State k) :
    (Except ε α × σ) × ((k : κ) → State k) :=
  Program.serve env (x.run s) m

/-- All calls of a process are about one component. -/
def About (k : κ) (x : Proc Call Reply σ ε α) : Prop := Emits (fun e => env.about e.call = k) x

variable {env} {x : Proc Call Reply σ ε α} {s s' : σ} {m m' n : (k : κ) → State k} {r : Except ε α}

/-- Serving a process is a run of it whose events are served. -/
theorem serve_iff : serve env x s m = ((r, s'), m') ↔ ∃ t, Runs x s t r s' ∧ Program.Served env m t m' :=
  Program.serve_iff

/-- Returning. -/
@[simp] theorem serve_pure {a : α} : serve env (pure a : Proc Call Reply σ ε α) s m = ((.ok a, s), m) := rfl

/-- Raising. -/
@[simp] theorem serve_throw {e : ε} : serve env (throw e : Proc Call Reply σ ε α) s m = ((.error e, s), m) :=
  rfl

/-- Changing the state. -/
@[simp] theorem serve_modify {f : σ → σ} :
    serve env (modify f : Proc Call Reply σ ε PUnit) s m = ((.ok ⟨⟩, f s), m) := rfl

/-- A request changes the component that it is about. -/
@[simp] theorem serve_request {c : Call} : serve env (request c : Proc Call Reply σ ε (Reply c)) s m
    = ((.ok (env.answer c (m (env.about c))).1, s),
      Function.update m (env.about c) (env.answer c (m (env.about c))).2) := rfl

/-- Two processes, one after the other. -/
theorem serve_bind {β : Type} {f : α → Proc Call Reply σ ε β} : serve env (x >>= f) s m =
    match serve env x s m with
    | ((.ok a, s₁), m₁) => serve env (f a) s₁ m₁
    | ((.error e, s₁), m₁) => ((.error e, s₁), m₁) := by
  refine (Program.serve_bind env (x.run s) _ m).trans ?_
  rw [serve]
  rcases Program.serve env (x.run s) m with ⟨⟨_ | _, _⟩, _⟩ <;> rfl

/-- Catching an exception. -/
theorem serve_tryCatch {h : ε → Proc Call Reply σ ε α} : serve env (tryCatch x h) s m =
    match serve env x s m with
    | ((.ok a, s₁), m₁) => ((.ok a, s₁), m₁)
    | ((.error e, s₁), m₁) => serve env (h e) s₁ m₁ := by
  refine (Program.serve_bind env (x.run s) _ m).trans ?_
  rw [serve]
  rcases Program.serve env (x.run s) m with ⟨⟨_ | _, _⟩, _⟩ <;> rfl

/-- A request whose reply may be an exception. -/
theorem serve_ask {c : Call} {g : Reply c → Except ε α} :
    serve env (ask c g : Proc Call Reply σ ε α) s m
      = ((g (env.answer c (m (env.about c))).1, s),
        Function.update m (env.about c) (env.answer c (m (env.about c))).2) := by
  rw [ask, serve_bind, serve_request]
  dsimp only
  cases g (env.answer c (m (env.about c))).1 <;> rfl

/-- A sequence that returns has run both of its parts. -/
theorem serve_bind_ok {β : Type} {f : α → Proc Call Reply σ ε β} {b : β} :
    serve env (x >>= f) s m = ((.ok b, s'), m') ↔
      ∃ a s₁ m₁, serve env x s m = ((.ok a, s₁), m₁) ∧ serve env (f a) s₁ m₁ = ((.ok b, s'), m') := by
  rw [serve_bind]
  rcases serve env x s m with ⟨⟨e | a, s₁⟩, m₁⟩
  · simp
  · constructor
    · exact fun h => ⟨a, s₁, m₁, rfl, h⟩
    · rintro ⟨a', s', m', heq, h⟩
      cases heq
      exact h

/-- What a process about one component does depends on this component alone. -/
theorem serve_of_about {k : κ} (hx : About env k x) (h : serve env x s m = ((r, s'), m'))
    (hmn : n k = m k) : serve env x s n = ((r, s'), Function.update n k (m' k)) := by
  obtain ⟨t, hrun, hserved⟩ := serve_iff.mp h
  exact serve_iff.mpr ⟨t, hrun, hserved.congr (hx _ _ _ _ hrun) hmn⟩

/-- The other components are left alone. -/
theorem serve_of_ne {k : κ} (hx : About env k x) (h : serve env x s m = ((r, s'), m')) {j : κ}
    (hj : j ≠ k) : m' j = m j := by
  obtain ⟨t, hrun, hserved⟩ := serve_iff.mp h
  exact hserved.of_ne (hx _ _ _ _ hrun) hj

/-! ## Processes one after the other -/

/-- Run a process for each key of a list. -/
def runAll (xs : κ → Proc Call Reply σ ε Unit) : List κ → Proc Call Reply σ ε Unit
  | [] => pure ()
  | k :: ks => do
      xs k
      runAll xs ks

variable {xs : κ → Proc Call Reply σ ε Unit} {ks : List κ}

/-- Running no processes. -/
theorem serve_runAll_nil {q : Except ε Unit} :
    serve env (runAll xs []) s m = ((q, s'), m') ↔ q = .ok () ∧ s' = s ∧ m' = m := by
  rw [serve_iff, runAll]
  constructor
  · rintro ⟨t, hrun, hserved⟩
    obtain ⟨rfl, rfl, rfl⟩ := runs_pure.mp hrun
    exact ⟨rfl, rfl, hserved⟩
  · rintro ⟨rfl, rfl, rfl⟩
    exact ⟨[], runs_pure.mpr ⟨rfl, rfl, rfl⟩, rfl⟩

/-- A run that does not raise has run the first process, and then the others. -/
theorem serve_runAll_cons {k : κ} : serve env (runAll xs (k :: ks)) s m = ((.ok (), s'), m') ↔
    ∃ s₁ m₁, serve env (xs k) s m = ((.ok (), s₁), m₁)
      ∧ serve env (runAll xs ks) s₁ m₁ = ((.ok (), s'), m') := by
  rw [runAll, serve_bind_ok]
  constructor
  · rintro ⟨⟨⟩, s₁, m₁, h₁, h₂⟩
    exact ⟨s₁, m₁, h₁, h₂⟩
  · rintro ⟨s₁, m₁, h₁, h₂⟩
    exact ⟨(), s₁, m₁, h₁, h₂⟩

/-- Components that no process is about stay the same. -/
theorem serve_runAll_of_notMem (habout : ∀ k ∈ ks, About env k (xs k)) {j : κ} (hj : j ∉ ks)
    (h : serve env (runAll xs ks) s m = ((.ok (), s'), m')) : m' j = m j := by
  induction ks generalizing s m with
  | nil => rw [(serve_runAll_nil.mp h).2.2]
  | cons k ks ih =>
      obtain ⟨s₁, m₁, h₁, h₂⟩ := serve_runAll_cons.mp h
      rw [List.mem_cons, not_or] at hj
      rw [ih (fun k' hk' => habout k' (List.mem_cons_of_mem _ hk')) hj.2 h₂,
        serve_of_ne (habout k List.mem_cons_self) h₁ hj.1]

/-- The process about a component has made of it what it would have made of it alone. -/
theorem serve_runAll_of_mem (habout : ∀ k ∈ ks, About env k (xs k)) (hnodup : ks.Nodup) {k : κ}
    (hk : k ∈ ks) (h : serve env (runAll xs ks) s m = ((.ok (), s'), m')) :
    ∃ s₁ s₂ m₁, serve env (xs k) s₁ m = ((.ok (), s₂), m₁) ∧ m₁ k = m' k := by
  induction ks generalizing s m with
  | nil => cases hk
  | cons first ks ih =>
      obtain ⟨s₁, m₁, h₁, h₂⟩ := serve_runAll_cons.mp h
      have hrest : ∀ k' ∈ ks, About env k' (xs k') := fun k' hk' =>
        habout k' (List.mem_cons_of_mem _ hk')
      obtain ⟨hfirst, hnodup⟩ := List.nodup_cons.mp hnodup
      rcases List.mem_cons.mp hk with rfl | hmem
      · exact ⟨s, s₁, m₁, h₁, (serve_runAll_of_notMem hrest hfirst h₂).symm⟩
      · obtain ⟨s₂, s₃, m₂, hserve, heq⟩ := ih hrest hnodup hmem h₂
        have hne : k ≠ first := fun heq => hfirst (heq ▸ hmem)
        have hsame : m k = m₁ k := (serve_of_ne (habout first List.mem_cons_self) h₁ hne).symm
        refine ⟨s₂, s₃, _, serve_of_about (hrest k hmem) hserve hsame, ?_⟩
        rw [Function.update_self, heq]

/-- Processes about different components return if each of them does alone. -/
theorem serve_runAll_returns (habout : ∀ k ∈ ks, About env k (xs k)) (hnodup : ks.Nodup)
    (hreturns : ∀ k ∈ ks, ∀ s, ∃ s' m', serve env (xs k) s m = ((.ok (), s'), m')) (s : σ) :
    ∃ s' m', serve env (runAll xs ks) s m = ((.ok (), s'), m') := by
  induction ks generalizing s m with
  | nil => exact ⟨s, m, serve_runAll_nil.mpr ⟨rfl, rfl, rfl⟩⟩
  | cons k ks ih =>
      obtain ⟨s₁, m₁, hfirst⟩ := hreturns k List.mem_cons_self s
      have hrest : ∀ k' ∈ ks, About env k' (xs k') := fun k' hk' =>
        habout k' (List.mem_cons_of_mem _ hk')
      obtain ⟨hk, hnodup⟩ := List.nodup_cons.mp hnodup
      -- the first process has changed nothing that the others depend on
      have hothers : ∀ k' ∈ ks, ∀ s, ∃ s' m', serve env (xs k') s m₁ = ((.ok (), s'), m') := by
        intro k' hk' s
        have hne : k' ≠ k := fun heq => hk (heq ▸ hk')
        obtain ⟨s₂, m₂, halone⟩ := hreturns k' (List.mem_cons_of_mem _ hk') s
        exact ⟨s₂, _, serve_of_about (hrest k' hk') halone
          (serve_of_ne (habout k List.mem_cons_self) hfirst hne)⟩
      obtain ⟨s', m', hall⟩ := ih hrest hnodup hothers s₁
      exact ⟨s', m', serve_runAll_cons.mpr ⟨s₁, m₁, hfirst, hall⟩⟩

variable (env xs) in
/-- Run once more, a process does the same and changes nothing. -/
def Repeats (k : κ) (m : (k : κ) → State k) : Prop :=
  ∀ s s' m', serve env (xs k) s m = ((.ok (), s'), m') → serve env (xs k) s m' = ((.ok (), s'), m')

/-- Whether a process can be repeated depends on its component. -/
theorem Repeats.congr {k : κ} (hx : About env k (xs k)) (h : Repeats env xs k m) (hmn : n k = m k) :
    Repeats env xs k n := by
  intro s s' n' hserve
  have honce := serve_of_about hx hserve hmn.symm
  have htwice := h _ _ _ honce
  have hsame : n' k = (Function.update m k (n' k)) k := (Function.update_self k (n' k) m).symm
  have hagain := serve_of_about hx htwice hsame
  rwa [Function.update_self, Function.update_eq_self] at hagain

/-- If each process can be repeated, the whole can. -/
theorem serve_runAll_again (habout : ∀ k ∈ ks, About env k (xs k)) (hnodup : ks.Nodup)
    (hrepeats : ∀ k ∈ ks, Repeats env xs k m)
    (h : serve env (runAll xs ks) s m = ((.ok (), s'), m')) :
    serve env (runAll xs ks) s m' = ((.ok (), s'), m') := by
  induction ks generalizing s m with
  | nil =>
      obtain ⟨-, rfl, -⟩ := serve_runAll_nil.mp h
      exact serve_runAll_nil.mpr ⟨rfl, rfl, rfl⟩
  | cons k ks ih =>
      obtain ⟨s₁, m₁, h₁, h₂⟩ := serve_runAll_cons.mp h
      have hfirst := habout k List.mem_cons_self
      have hrest : ∀ k' ∈ ks, About env k' (xs k') := fun k' hk' =>
        habout k' (List.mem_cons_of_mem _ hk')
      obtain ⟨hk, hnodup⟩ := List.nodup_cons.mp hnodup
      have hothers : ∀ k' ∈ ks, Repeats env xs k' m₁ := by
        intro k' hk'
        have hne : k' ≠ k := fun heq => hk (heq ▸ hk')
        exact (hrepeats k' (List.mem_cons_of_mem _ hk')).congr (hrest k' hk') (serve_of_ne hfirst h₁ hne)
      -- the other processes have left the first component as it was
      have hsame : m' k = m₁ k := serve_runAll_of_notMem hrest hk h₂
      have hagain := serve_of_about hfirst (hrepeats k List.mem_cons_self _ _ _ h₁) hsame
      rw [← hsame, Function.update_eq_self] at hagain
      exact serve_runAll_cons.mpr ⟨s₁, m', hagain, ih hrest hnodup hothers h₂⟩

end Proc

end QubesAdminLinux
