import Mathlib.Logic.Basic
import Mathlib.Control.Monad.Basic

/-! # Sequential programs that question their environment

A `Program Call Reply α` is a finite tree: it either returns a value or makes a call and continues
according to the reply.  Replies are not computed by the program, so a statement about all of its
runs is a statement about every behaviour of the environment, at every call.

* **`Program.Runs p t a`** — `p` can return `a` after the calls and replies recorded in the trace `t`;
  `Program.runs_bind` splits the trace of a composition.
* **`Program.play`** — the run against an environment given as a function; it is a run
  (`Program.runs_play`), which makes concrete runs computable.
* **`Program.WaitsAt p t c`** — after the events of `t`, `p` waits for the reply to `c`, which may never
  come.
* **`Proc`** — programs with a mutable state and exceptions, the state surviving an exception.
  `Proc.Runs` comes with one inversion rule for each statement form: `runs_pure`, `runs_throw`,
  `runs_bind`, `runs_request`, `runs_get`, `runs_set`, `runs_tryCatch`, `runs_observe`.
* **`Proc.Emits P`, `Proc.FailsOn P`** — every event of every run satisfies `P`; the runs that raise
  are those with an event satisfying `P`.  Both are proved statement by statement. -/

namespace QubesAdminLinux

/-- A call together with the reply it got. -/
structure Event {Call : Type} (Reply : Call → Type) where
  /-- The call made by the program. -/
  call : Call
  /-- The reply chosen by the environment. -/
  reply : Reply call

/-- A program returning `α` that makes calls in `Call`, each answered in `Reply`. -/
inductive Program (Call : Type) (Reply : Call → Type) (α : Type) : Type
  /-- Stop with a value. -/
  | pure (a : α)
  /-- Make a call and continue with its reply. -/
  | call (c : Call) (next : Reply c → Program Call Reply α)

namespace Program

variable {Call : Type} {Reply : Call → Type} {α β γ : Type}

/-- Run `p`, then `f` on its value. -/
def bind (p : Program Call Reply α) (f : α → Program Call Reply β) : Program Call Reply β :=
  match p with
  | .pure a => f a
  | .call c next => .call c fun r => (next r).bind f

instance : Monad (Program Call Reply) where
  pure := Program.pure
  bind := Program.bind

/-- Sequencing is associative. -/
theorem bind_assoc (p : Program Call Reply α) (f : α → Program Call Reply β)
    (g : β → Program Call Reply γ) : (p.bind f).bind g = p.bind fun a => (f a).bind g := by
  induction p with
  | pure a => rfl
  | call c next ih =>
      simp only [bind]
      congr 1
      funext r
      exact ih r

/-- Returning is a right unit of sequencing. -/
theorem bind_pure (p : Program Call Reply α) : p.bind Program.pure = p := by
  induction p with
  | pure a => rfl
  | call c next ih =>
      simp only [bind]
      congr 1
      funext r
      exact ih r

instance : LawfulMonad (Program Call Reply) :=
  LawfulMonad.mk' _ (fun p => bind_pure p) (fun _ _ => rfl) fun p f g => bind_assoc p f g

/-- The program that makes one call and returns the reply. -/
def request (c : Call) : Program Call Reply (Reply c) := .call c .pure

/-- `Runs p t a`: `p` can return `a` after exchanging exactly the events of `t`. -/
inductive Runs : Program Call Reply α → List (Event Reply) → α → Prop
  | pure (a : α) : Runs (.pure a) [] a
  | call {c : Call} {next : Reply c → Program Call Reply α} {t : List (Event Reply)} {a : α}
      (r : Reply c) (h : Runs (next r) t a) : Runs (.call c next) (⟨c, r⟩ :: t) a

/-- Returning makes no calls. -/
@[simp] theorem runs_pure {a b : α} {t : List (Event Reply)} :
    Runs (.pure a : Program Call Reply α) t b ↔ t = [] ∧ b = a := by
  constructor
  · rintro ⟨⟩
    exact ⟨rfl, rfl⟩
  · rintro ⟨rfl, rfl⟩
    exact .pure b

/-- A run of a call is the event of the call followed by a run of the continuation. -/
theorem runs_call {c : Call} {next : Reply c → Program Call Reply α} {t : List (Event Reply)}
    {a : α} :
    Runs (.call c next) t a ↔ ∃ r t', t = ⟨c, r⟩ :: t' ∧ Runs (next r) t' a := by
  constructor
  · rintro ⟨⟩
    exact ⟨_, _, rfl, by assumption⟩
  · rintro ⟨r, t', rfl, h⟩
    exact .call r h

/-- The trace of a composition is the trace of its first part followed by that of the second. -/
theorem runs_bind {p : Program Call Reply α} {f : α → Program Call Reply β}
    {t : List (Event Reply)} {b : β} :
    Runs (p.bind f) t b ↔ ∃ a t₁ t₂, t = t₁ ++ t₂ ∧ Runs p t₁ a ∧ Runs (f a) t₂ b := by
  induction p generalizing t with
  | pure a =>
      constructor
      · intro h
        exact ⟨a, [], t, rfl, .pure a, h⟩
      · rintro ⟨a', t₁, t₂, rfl, h₁, h₂⟩
        obtain ⟨rfl, rfl⟩ := runs_pure.mp h₁
        exact h₂
  | call c next ih =>
      -- the call comes first on both sides, and the rest is the induction hypothesis at its reply
      rw [bind, runs_call]
      constructor
      · rintro ⟨r, t', rfl, h⟩
        obtain ⟨a, t₁, t₂, rfl, h₁, h₂⟩ := (ih r).mp h
        exact ⟨a, ⟨c, r⟩ :: t₁, t₂, rfl, .call r h₁, h₂⟩
      · rintro ⟨a, t₁, t₂, rfl, h₁, h₂⟩
        obtain ⟨r, t', rfl, h⟩ := runs_call.mp h₁
        exact ⟨r, t' ++ t₂, rfl, (ih r).mpr ⟨a, t', t₂, rfl, h, h₂⟩⟩

/-- Run a program against an environment that answers each call as a function of the call. -/
def play (env : (c : Call) → Reply c) : Program Call Reply α → List (Event Reply) × α
  | .pure a => ([], a)
  | .call c next =>
      let rest := play env (next (env c))
      (⟨c, env c⟩ :: rest.1, rest.2)

/-- The parts of a composition are played one after the other. -/
theorem play_bind (env : (c : Call) → Reply c) (p : Program Call Reply α)
    (f : α → Program Call Reply β) :
    play env (p.bind f) = ((play env p).1 ++ (play env (f (play env p).2)).1,
      (play env (f (play env p).2)).2) := by
  induction p with
  | pure a => rfl
  | call c next ih =>
      rw [bind, play, ih]
      rfl

/-- Playing against an environment is a run. -/
theorem runs_play (env : (c : Call) → Reply c) (p : Program Call Reply α) :
    Runs p (play env p).1 (play env p).2 := by
  induction p with
  | pure a => exact .pure a
  | call c next ih => exact .call (env c) (ih (env c))

/-- What holds of every answer of the environment holds of every event of a run against it. -/
theorem forall_mem_play {env : (c : Call) → Reply c} {P : Event Reply → Prop}
    (h : ∀ c, P ⟨c, env c⟩) (p : Program Call Reply α) : ∀ e ∈ (play env p).1, P e := by
  induction p with
  | pure a => simp [play]
  | call c next ih =>
      rw [play, List.forall_mem_cons]
      exact ⟨h c, ih (env c)⟩

/-- `WaitsAt p t c`: after exchanging the events of `t`, `p` waits for the reply to `c`. -/
inductive WaitsAt : Program Call Reply α → List (Event Reply) → Call → Prop
  | here {c : Call} {next : Reply c → Program Call Reply α} : WaitsAt (.call c next) [] c
  | later {c c' : Call} {next : Reply c → Program Call Reply α} {t : List (Event Reply)}
      (r : Reply c) (h : WaitsAt (next r) t c') : WaitsAt (.call c next) (⟨c, r⟩ :: t) c'

/-- A program that waits for a reply has a run in which it gets this reply. -/
theorem exists_runs_of_waitsAt (env : (c : Call) → Reply c) {p : Program Call Reply α}
    {t : List (Event Reply)} {c : Call} (h : WaitsAt p t c) (r : Reply c) :
    ∃ t' a, Runs p (t ++ ⟨c, r⟩ :: t') a := by
  induction h with
  | here => exact ⟨_, _, .call r (runs_play env _)⟩
  | later r' h ih =>
      obtain ⟨t', a, hruns⟩ := ih r
      exact ⟨t', a, .call r' hruns⟩

end Program

/-- Programs with a state of type `σ` and exceptions of type `ε`; the state survives an exception. -/
abbrev Proc (Call : Type) (Reply : Call → Type) (σ ε α : Type) : Type :=
  ExceptT ε (StateT σ (Program Call Reply)) α

namespace Proc

variable {Call : Type} {Reply : Call → Type} {σ ε α β : Type}

/-- Make a call and return its reply. -/
def request (c : Call) : Proc Call Reply σ ε (Reply c) :=
  ExceptT.mk fun s => (Program.request c).bind fun r => .pure (.ok r, s)

/-- Run `x` and return its outcome, value or exception, as a value. -/
def observe (x : Proc Call Reply σ ε α) : Proc Call Reply σ ε (Except ε α) :=
  ExceptT.mk fun s => (x.run s).bind fun q => .pure (.ok q.1, q.2)

/-- `Runs x s t r s'`: started in state `s`, `x` can end in state `s'` with outcome `r` after
exchanging exactly the events of `t`. -/
def Runs (x : Proc Call Reply σ ε α) (s : σ) (t : List (Event Reply)) (r : Except ε α) (s' : σ) :
    Prop :=
  Program.Runs (x.run s) t (r, s')

/-- `Waits x s t c`: started in state `s`, after exchanging the events of `t`, `x` waits for the reply to
`c`. -/
def Waits (x : Proc Call Reply σ ε α) (s : σ) (t : List (Event Reply)) (c : Call) : Prop :=
  Program.WaitsAt (x.run s) t c

variable {x : Proc Call Reply σ ε α} {s s' : σ} {t : List (Event Reply)}

/-- What waits for a reply has a run in which it gets this reply. -/
theorem exists_runs_of_waits (env : (c : Call) → Reply c) {c : Call} (h : Waits x s t c) (a : Reply c) :
    ∃ t' r s', Runs x s (t ++ ⟨c, a⟩ :: t') r s' := by
  obtain ⟨t', ⟨r, s'⟩, hruns⟩ := Program.exists_runs_of_waitsAt env h a
  exact ⟨t', r, s', hruns⟩

/-- Returning makes no calls and keeps the state. -/
@[simp] theorem runs_pure {a : α} {r : Except ε α} :
    Runs (pure a : Proc Call Reply σ ε α) s t r s' ↔ t = [] ∧ r = .ok a ∧ s' = s := by
  rw [Runs]
  refine Program.runs_pure.trans ?_
  rw [Prod.mk.injEq]

/-- Raising makes no calls and keeps the state. -/
@[simp] theorem runs_throw {e : ε} {r : Except ε α} :
    Runs (throw e : Proc Call Reply σ ε α) s t r s' ↔ t = [] ∧ r = .error e ∧ s' = s := by
  rw [Runs]
  refine Program.runs_pure.trans ?_
  rw [Prod.mk.injEq]

/-- Reading the state. -/
@[simp] theorem runs_get {r : Except ε σ} :
    Runs (get : Proc Call Reply σ ε σ) s t r s' ↔ t = [] ∧ r = .ok s ∧ s' = s := by
  rw [Runs]
  refine Program.runs_pure.trans ?_
  rw [Prod.mk.injEq]

/-- Writing the state. -/
@[simp] theorem runs_set {s₀ : σ} {r : Except ε PUnit} :
    Runs (set s₀ : Proc Call Reply σ ε PUnit) s t r s' ↔ t = [] ∧ r = .ok ⟨⟩ ∧ s' = s₀ := by
  rw [Runs]
  refine Program.runs_pure.trans ?_
  rw [Prod.mk.injEq]

/-- A request has any reply. -/
@[simp] theorem runs_request {c : Call} {r : Except ε (Reply c)} :
    Runs (request c : Proc Call Reply σ ε (Reply c)) s t r s'
      ↔ ∃ a, t = [⟨c, a⟩] ∧ r = .ok a ∧ s' = s := by
  rw [Runs]
  refine Program.runs_call.trans ?_
  constructor
  · rintro ⟨a, t', rfl, h⟩
    obtain ⟨rfl, h'⟩ := Program.runs_pure.mp h
    exact ⟨a, rfl, Prod.mk.inj h'⟩
  · rintro ⟨a, rfl, rfl, rfl⟩
    exact ⟨a, [], rfl, .pure _⟩

/-- A sequence ends with an exception of its first part, or runs both parts. -/
theorem runs_bind {f : α → Proc Call Reply σ ε β} {r : Except ε β} :
    Runs (x >>= f) s t r s' ↔
      (∃ e, r = .error e ∧ Runs x s t (.error e) s') ∨
      (∃ a t₁ t₂ s₁, t = t₁ ++ t₂ ∧ Runs x s t₁ (.ok a) s₁ ∧ Runs (f a) s₁ t₂ r s') := by
  rw [Runs]
  refine Program.runs_bind.trans ?_
  constructor
  · rintro ⟨⟨q, s₁⟩, t₁, t₂, rfl, h₁, h₂⟩
    cases q with
    | error e =>
        -- the second part is not run, and the trace ends here
        obtain ⟨rfl, h⟩ := Program.runs_pure.mp h₂
        obtain ⟨rfl, rfl⟩ := Prod.mk.inj h
        exact Or.inl ⟨e, rfl, by rw [List.append_nil]; exact h₁⟩
    | ok a => exact Or.inr ⟨a, t₁, t₂, s₁, rfl, h₁, h₂⟩
  · rintro (⟨e, rfl, h⟩ | ⟨a, t₁, t₂, s₁, rfl, h₁, h₂⟩)
    · exact ⟨(.error e, s'), t, [], (List.append_nil t).symm, h, .pure _⟩
    · exact ⟨(.ok a, s₁), t₁, t₂, rfl, h₁, h₂⟩

/-- A sequence that ends normally has run both of its parts normally. -/
theorem runs_bind_ok {f : α → Proc Call Reply σ ε β} {b : β} :
    Runs (x >>= f) s t (.ok b) s' ↔
      ∃ a t₁ t₂ s₁, t = t₁ ++ t₂ ∧ Runs x s t₁ (.ok a) s₁ ∧ Runs (f a) s₁ t₂ (.ok b) s' := by
  rw [runs_bind]
  constructor
  · rintro (⟨e, h, -⟩ | h)
    · cases h
    · exact h
  · exact Or.inr

/-- Reading the state takes no time. -/
theorem runs_get_bind {f : σ → Proc Call Reply σ ε β} {r : Except ε β} :
    Runs (get >>= f) s t r s' ↔ Runs (f s) s t r s' := by
  rw [runs_bind]
  constructor
  · rintro (⟨e, -, h⟩ | ⟨a, t₁, t₂, s₁, rfl, h₁, h₂⟩)
    · cases (runs_get.mp h).2.1
    · obtain ⟨rfl, ha, rfl⟩ := runs_get.mp h₁
      cases ha
      exact h₂
  · intro h
    exact Or.inr ⟨s, [], t, s, rfl, runs_get.mpr ⟨rfl, rfl, rfl⟩, h⟩

/-- What follows an assignment runs in the new state. -/
theorem runs_set_bind {s₀ : σ} {f : PUnit → Proc Call Reply σ ε β} {r : Except ε β} :
    Runs (set s₀ >>= f) s t r s' ↔ Runs (f ⟨⟩) s₀ t r s' := by
  rw [runs_bind]
  constructor
  · rintro (⟨e, -, h⟩ | ⟨a, t₁, t₂, s₁, rfl, h₁, h₂⟩)
    · cases (runs_set.mp h).2.1
    · obtain ⟨rfl, -, rfl⟩ := runs_set.mp h₁
      exact h₂
  · intro h
    exact Or.inr ⟨⟨⟩, [], t, s₀, rfl, runs_set.mpr ⟨rfl, rfl, rfl⟩, h⟩

/-- A call and what follows it. -/
theorem runs_request_bind {c : Call} {f : Reply c → Proc Call Reply σ ε β} {r : Except ε β} :
    Runs (request c >>= f) s t r s' ↔ ∃ a t', t = ⟨c, a⟩ :: t' ∧ Runs (f a) s t' r s' := by
  rw [runs_bind]
  constructor
  · rintro (⟨e, -, h⟩ | ⟨a, t₁, t₂, s₁, rfl, h₁, h₂⟩)
    · obtain ⟨_, -, hr, -⟩ := runs_request.mp h
      cases hr
    · obtain ⟨_, rfl, ha, rfl⟩ := runs_request.mp h₁
      cases ha
      exact ⟨a, t₂, rfl, h₂⟩
  · rintro ⟨a, t', rfl, h⟩
    exact Or.inr ⟨a, [⟨c, a⟩], t', s, rfl, runs_request.mpr ⟨a, rfl, rfl, rfl⟩, h⟩

/-- A handler runs exactly when the guarded part raises. -/
theorem runs_tryCatch {h : ε → Proc Call Reply σ ε α} {r : Except ε α} :
    Runs (tryCatch x h) s t r s' ↔
      (∃ a, r = .ok a ∧ Runs x s t (.ok a) s') ∨
      (∃ e t₁ t₂ s₁, t = t₁ ++ t₂ ∧ Runs x s t₁ (.error e) s₁ ∧ Runs (h e) s₁ t₂ r s') := by
  rw [Runs]
  refine Program.runs_bind.trans ?_
  constructor
  · rintro ⟨⟨q, s₁⟩, t₁, t₂, rfl, h₁, h₂⟩
    cases q with
    | ok a =>
        -- no exception: the handler adds nothing to the trace
        obtain ⟨rfl, h'⟩ := Program.runs_pure.mp h₂
        obtain ⟨rfl, rfl⟩ := Prod.mk.inj h'
        exact Or.inl ⟨a, rfl, by rw [List.append_nil]; exact h₁⟩
    | error e => exact Or.inr ⟨e, t₁, t₂, s₁, rfl, h₁, h₂⟩
  · rintro (⟨a, rfl, h'⟩ | ⟨e, t₁, t₂, s₁, rfl, h₁, h₂⟩)
    · exact ⟨(.ok a, s'), t, [], (List.append_nil t).symm, h', .pure _⟩
    · exact ⟨(.error e, s₁), t₁, t₂, rfl, h₁, h₂⟩

/-- The result of a process, exceptions included, is returned. -/
@[simp] theorem runs_observe {r : Except ε (Except ε α)} :
    Runs (observe x) s t r s' ↔ ∃ q, r = .ok q ∧ Runs x s t q s' := by
  rw [Runs]
  refine Program.runs_bind.trans ?_
  constructor
  · rintro ⟨⟨q, s₁⟩, t₁, t₂, rfl, h₁, h₂⟩
    obtain ⟨rfl, h⟩ := Program.runs_pure.mp h₂
    obtain ⟨rfl, rfl⟩ := Prod.mk.inj h
    exact ⟨q, rfl, by rw [List.append_nil]; exact h₁⟩
  · rintro ⟨q, rfl, h⟩
    exact ⟨(q, s'), t, [], (List.append_nil t).symm, h, .pure _⟩

/-- Return or raise. -/
def returnOrRaise : Except ε α → Proc Call Reply σ ε α
  | .ok a => pure a
  | .error e => throw e

/-- A given result. -/
theorem runs_returnOrRaise {a r : Except ε α} :
    Runs (returnOrRaise a : Proc Call Reply σ ε α) s t r s' ↔ t = [] ∧ r = a ∧ s' = s := by
  cases a with
  | ok a => exact runs_pure
  | error e => exact runs_throw

/-- Make a call whose reply, read by `f`, is returned or raised. -/
def ask (c : Call) (f : Reply c → Except ε α) : Proc Call Reply σ ε α :=
  request c >>= fun a => returnOrRaise (f a)

/-- A request whose reply may be an exception. -/
theorem runs_ask {c : Call} {f : Reply c → Except ε α} {r : Except ε α} :
    Runs (ask c f : Proc Call Reply σ ε α) s t r s'
      ↔ ∃ a, t = [⟨c, a⟩] ∧ r = f a ∧ s' = s := by
  rw [ask, runs_request_bind]
  constructor
  · rintro ⟨a, t', rfl, h⟩
    obtain ⟨rfl, rfl, rfl⟩ := runs_returnOrRaise.mp h
    exact ⟨a, rfl, rfl, rfl⟩
  · rintro ⟨a, rfl, rfl, rfl⟩
    exact ⟨a, [], rfl, runs_returnOrRaise.mpr ⟨rfl, rfl, rfl⟩⟩

/-! ## Properties of all events -/

/-- Every event of every run of `x` satisfies `P`. -/
def Emits (P : Event Reply → Prop) (x : Proc Call Reply σ ε α) : Prop :=
  ∀ s t r s', Runs x s t r s' → ∀ e ∈ t, P e

/-- The runs of `x` that raise are those with an event that satisfies `P`. -/
def FailsOn (P : Event Reply → Prop) (x : Proc Call Reply σ ε α) : Prop :=
  ∀ s t r s', Runs x s t r s' → ((∃ exc, r = .error exc) ↔ ∃ e ∈ t, P e)

variable {P Q : Event Reply → Prop}

/-- A weaker property holds of the same events. -/
theorem Emits.mono (h : Emits P x) (hPQ : ∀ e, P e → Q e) : Emits Q x := by
  intro s t r s' hrun e he
  exact hPQ e (h s t r s' hrun e he)

/-- Returning. -/
theorem emits_pure {a : α} : Emits P (pure a : Proc Call Reply σ ε α) := by
  intro s t r s' hrun e he
  rw [(runs_pure.mp hrun).1] at he
  cases he

/-- Raising. -/
theorem emits_throw {exc : ε} : Emits P (throw exc : Proc Call Reply σ ε α) := by
  intro s t r s' hrun e he
  rw [(runs_throw.mp hrun).1] at he
  cases he

/-- Reading the state. -/
theorem emits_get : Emits P (get : Proc Call Reply σ ε σ) := by
  intro s t r s' hrun e he
  rw [(runs_get.mp hrun).1] at he
  cases he

/-- Writing the state. -/
theorem emits_set {s₀ : σ} : Emits P (set s₀ : Proc Call Reply σ ε PUnit) := by
  intro s t r s' hrun e he
  rw [(runs_set.mp hrun).1] at he
  cases he

/-- A request with such replies. -/
theorem emits_request {c : Call} (h : ∀ a, P ⟨c, a⟩) :
    Emits P (request c : Proc Call Reply σ ε (Reply c)) := by
  intro s t r s' hrun e he
  obtain ⟨a, rfl, -, -⟩ := runs_request.mp hrun
  rw [List.mem_singleton.mp he]
  exact h a

/-- A request whose reply may be an exception. -/
theorem emits_ask {c : Call} {f : Reply c → Except ε α} (h : ∀ a, P ⟨c, a⟩) :
    Emits P (ask c f : Proc Call Reply σ ε α) := by
  intro s t r s' hrun e he
  obtain ⟨a, rfl, -, -⟩ := runs_ask.mp hrun
  rw [List.mem_singleton.mp he]
  exact h a

/-- The events of a sequence are those of its parts. -/
theorem emits_bind {f : α → Proc Call Reply σ ε β} (hx : Emits P x) (hf : ∀ a, Emits P (f a)) :
    Emits P (x >>= f) := by
  intro s t r s' hrun e he
  rcases runs_bind.mp hrun with ⟨exc, -, h⟩ | ⟨a, t₁, t₂, s₁, rfl, h₁, h₂⟩
  · exact hx s t _ s' h e he
  · rcases List.mem_append.mp he with he | he
    · exact hx s t₁ _ s₁ h₁ e he
    · exact hf a s₁ t₂ r s' h₂ e he

/-- The events of a guarded part and its handler. -/
theorem emits_tryCatch {h : ε → Proc Call Reply σ ε α} (hx : Emits P x) (hh : ∀ e, Emits P (h e)) :
    Emits P (tryCatch x h) := by
  intro s t r s' hrun e he
  rcases runs_tryCatch.mp hrun with ⟨a, -, hr⟩ | ⟨exc, t₁, t₂, s₁, rfl, h₁, h₂⟩
  · exact hx s t _ s' hr e he
  · rcases List.mem_append.mp he with he | he
    · exact hx s t₁ _ s₁ h₁ e he
    · exact hh exc s₁ t₂ r s' h₂ e he

/-- Returning. -/
theorem failsOn_pure {a : α} : FailsOn P (pure a : Proc Call Reply σ ε α) := by
  intro s t r s' hrun
  obtain ⟨rfl, rfl, -⟩ := runs_pure.mp hrun
  simp

/-- Reading the state. -/
theorem failsOn_get : FailsOn P (get : Proc Call Reply σ ε σ) := by
  intro s t r s' hrun
  obtain ⟨rfl, rfl, -⟩ := runs_get.mp hrun
  simp

/-- Writing the state. -/
theorem failsOn_set {s₀ : σ} : FailsOn P (set s₀ : Proc Call Reply σ ε PUnit) := by
  intro s t r s' hrun
  obtain ⟨rfl, rfl, -⟩ := runs_set.mp hrun
  simp

/-- A call as such never raises. -/
theorem failsOn_request {c : Call} (h : ∀ a, ¬ P ⟨c, a⟩) :
    FailsOn P (request c : Proc Call Reply σ ε (Reply c)) := by
  intro s t r s' hrun
  obtain ⟨a, rfl, rfl, -⟩ := runs_request.mp hrun
  simp [h a]

/-- A call raises where its reply does. -/
theorem failsOn_ask {c : Call} {f : Reply c → Except ε α}
    (h : ∀ a, (∃ exc, f a = .error exc) ↔ P ⟨c, a⟩) :
    FailsOn P (ask c f : Proc Call Reply σ ε α) := by
  intro s t r s' hrun
  obtain ⟨a, rfl, rfl, -⟩ := runs_ask.mp hrun
  simp [h a]

/-- A sequence raises where one of its parts does. -/
theorem failsOn_bind {f : α → Proc Call Reply σ ε β} (hx : FailsOn P x)
    (hf : ∀ a, FailsOn P (f a)) : FailsOn P (x >>= f) := by
  intro s t r s' hrun
  rcases runs_bind.mp hrun with ⟨exc, rfl, h⟩ | ⟨a, t₁, t₂, s₁, rfl, h₁, h₂⟩
  · have := hx s t _ s' h
    simpa using this
  · -- the first part has not raised, so none of its events satisfies `P`
    have h₁' := hx s t₁ _ s₁ h₁
    have hnone : ¬ ∃ e ∈ t₁, P e := by
      rw [← h₁']
      simp
    rw [hf a s₁ t₂ r s' h₂]
    constructor
    · rintro ⟨e, he, hP⟩
      exact ⟨e, List.mem_append_right t₁ he, hP⟩
    · rintro ⟨e, he, hP⟩
      rcases List.mem_append.mp he with he | he
      · exact absurd ⟨e, he, hP⟩ hnone
      · exact ⟨e, he, hP⟩

/-- A part whose events never satisfy `P`, under a handler that never raises. -/
theorem failsOn_tryCatch {h : ε → Proc Call Reply σ ε α} (hx : Emits (fun e => ¬ P e) x)
    (hh : ∀ exc, FailsOn P (h exc)) : FailsOn P (tryCatch x h) := by
  intro s t r s' hrun
  rcases runs_tryCatch.mp hrun with ⟨a, rfl, hr⟩ | ⟨exc, t₁, t₂, s₁, rfl, h₁, h₂⟩
  · have hnone := hx s t _ s' hr
    simpa using hnone
  · -- the guarded part has no event that satisfies `P`, so the handler decides
    have hnone := hx s t₁ _ s₁ h₁
    rw [hh exc s₁ t₂ r s' h₂]
    constructor
    · rintro ⟨e, he, hP⟩
      exact ⟨e, List.mem_append_right t₁ he, hP⟩
    · rintro ⟨e, he, hP⟩
      rcases List.mem_append.mp he with he | he
      · exact absurd hP (hnone e he)
      · exact ⟨e, he, hP⟩

/-! ## What is returned and raised -/

/-- In runs whose events satisfy `P`, `x` returns only what satisfies `Q` and raises only what
satisfies `X`. -/
def Yields (P : Event Reply → Prop) (Q : α → Prop) (X : ε → Prop) (x : Proc Call Reply σ ε α) :
    Prop :=
  ∀ s t r s', Runs x s t r s' → (∀ e ∈ t, P e) →
    (∀ a, r = .ok a → Q a) ∧ ∀ exc, r = .error exc → X exc

variable {R : α → Prop} {X : ε → Prop}

/-- Less is known of what is returned. -/
theorem Yields.mono {R' : α → Prop} (h : Yields P R X x) (hR : ∀ a, R a → R' a) :
    Yields P R' X x := by
  intro s t r s' hrun hP
  obtain ⟨hok, herror⟩ := h s t r s' hrun hP
  exact ⟨fun a ha => hR a (hok a ha), herror⟩

/-- Returning such a value. -/
theorem yields_pure {a : α} (h : R a) : Yields P R X (pure a : Proc Call Reply σ ε α) := by
  intro s t r s' hrun hP
  obtain ⟨-, rfl, -⟩ := runs_pure.mp hrun
  exact ⟨by rintro _ ⟨⟩; exact h, by simp⟩

/-- Raising such an exception. -/
theorem yields_throw {exc : ε} (h : X exc) :
    Yields P R X (throw exc : Proc Call Reply σ ε α) := by
  intro s t r s' hrun hP
  obtain ⟨-, rfl, -⟩ := runs_throw.mp hrun
  exact ⟨by simp, by rintro _ ⟨⟩; exact h⟩

/-- A call returns what its reply is allowed to be. -/
theorem yields_request {c : Call} {R : Reply c → Prop} (h : ∀ a, P ⟨c, a⟩ → R a) :
    Yields P R X (request c : Proc Call Reply σ ε (Reply c)) := by
  intro s t r s' hrun hP
  obtain ⟨a, rfl, rfl, -⟩ := runs_request.mp hrun
  refine ⟨?_, by simp⟩
  rintro _ ⟨⟩
  exact h a (hP _ (List.mem_singleton_self _))

/-- A call returns and raises what its reply is allowed to be. -/
theorem yields_ask {c : Call} {f : Reply c → Except ε α} (hR : ∀ a b, P ⟨c, a⟩ → f a = .ok b → R b)
    (hX : ∀ a exc, P ⟨c, a⟩ → f a = .error exc → X exc) :
    Yields P R X (ask c f : Proc Call Reply σ ε α) := by
  intro s t r s' hrun hP
  obtain ⟨a, rfl, rfl, -⟩ := runs_ask.mp hrun
  have hcall := hP _ (List.mem_singleton_self _)
  exact ⟨fun b => hR a b hcall, fun exc => hX a exc hcall⟩

/-- Two processes, one after the other. -/
theorem yields_bind {f : α → Proc Call Reply σ ε β} {S : β → Prop} (hx : Yields P R X x)
    (hf : ∀ a, R a → Yields P S X (f a)) : Yields P S X (x >>= f) := by
  intro s t r s' hrun hP
  rcases runs_bind.mp hrun with ⟨exc, rfl, h⟩ | ⟨a, t₁, t₂, s₁, rfl, h₁, h₂⟩
  · refine ⟨by simp, ?_⟩
    rintro _ ⟨⟩
    exact (hx s t _ s' h hP).2 exc rfl
  · rw [List.forall_mem_append] at hP
    exact hf a ((hx s t₁ _ s₁ h₁ hP.1).1 a rfl) s₁ t₂ r s' h₂ hP.2

/-- A guarded part and its handler. -/
theorem yields_tryCatch {h : ε → Proc Call Reply σ ε α} {X' : ε → Prop} (hx : Yields P R X' x)
    (hh : ∀ exc, X' exc → Yields P R X (h exc)) : Yields P R X (tryCatch x h) := by
  intro s t r s' hrun hP
  rcases runs_tryCatch.mp hrun with ⟨a, rfl, hr⟩ | ⟨exc, t₁, t₂, s₁, rfl, h₁, h₂⟩
  · exact ⟨(hx s t _ s' hr hP).1, by simp⟩
  · rw [List.forall_mem_append] at hP
    exact hh exc ((hx s t₁ _ s₁ h₁ hP.1).2 exc rfl) s₁ t₂ r s' h₂ hP.2

/-- An observed part raises nothing, and its result is known. -/
theorem yields_observe (hx : Yields P R X x) :
    Yields P (fun r => (∀ a, r = .ok a → R a) ∧ ∀ exc, r = .error exc → X exc) X (observe x) := by
  intro s t r s' hrun hP
  obtain ⟨q, rfl, h⟩ := runs_observe.mp hrun
  refine ⟨?_, by simp⟩
  rintro _ ⟨⟩
  exact hx s t q s' h hP

/-- The events of an observed part. -/
theorem emits_observe (hx : Emits P x) : Emits P (observe x) := by
  intro s t r s' hrun e he
  obtain ⟨q, -, h⟩ := runs_observe.mp hrun
  exact hx s t q s' h e he

/-! ## Properties of the state -/

/-- Every run of `x` that starts in a state satisfying `I` ends in one. -/
def Preserves (I : σ → Prop) (x : Proc Call Reply σ ε α) : Prop :=
  ∀ s t r s', Runs x s t r s' → I s → I s'

variable {I : σ → Prop}

/-- Returning. -/
theorem preserves_pure {a : α} : Preserves I (pure a : Proc Call Reply σ ε α) := by
  intro s t r s' hrun hI
  rw [(runs_pure.mp hrun).2.2]
  exact hI

/-- Raising. -/
theorem preserves_throw {exc : ε} : Preserves I (throw exc : Proc Call Reply σ ε α) := by
  intro s t r s' hrun hI
  rw [(runs_throw.mp hrun).2.2]
  exact hI

/-- Reading the state. -/
theorem preserves_get : Preserves I (get : Proc Call Reply σ ε σ) := by
  intro s t r s' hrun hI
  rw [(runs_get.mp hrun).2.2]
  exact hI

/-- An assignment preserves what holds of the new state. -/
theorem preserves_set {s₀ : σ} (h : I s₀) :
    Preserves I (set s₀ : Proc Call Reply σ ε PUnit) := by
  intro s t r s' hrun hI
  rw [(runs_set.mp hrun).2.2]
  exact h

/-- A request. -/
theorem preserves_request {c : Call} :
    Preserves I (request c : Proc Call Reply σ ε (Reply c)) := by
  intro s t r s' hrun hI
  obtain ⟨a, -, -, rfl⟩ := runs_request.mp hrun
  exact hI

/-- Two processes, one after the other. -/
theorem preserves_bind {f : α → Proc Call Reply σ ε β} (hx : Preserves I x)
    (hf : ∀ a, Preserves I (f a)) : Preserves I (x >>= f) := by
  intro s t r s' hrun hI
  rcases runs_bind.mp hrun with ⟨exc, -, h⟩ | ⟨a, t₁, t₂, s₁, -, h₁, h₂⟩
  · exact hx s t _ s' h hI
  · exact hf a s₁ t₂ r s' h₂ (hx s t₁ _ s₁ h₁ hI)

/-- Run a process from state `s` against an environment given as a function. -/
def play (env : (c : Call) → Reply c) (x : Proc Call Reply σ ε α) (s : σ) :
    List (Event Reply) × Except ε α × σ :=
  Program.play env (x.run s)

/-- A sequence whose first part returns. -/
theorem play_bind_ok {env : (c : Call) → Reply c} {f : α → Proc Call Reply σ ε β} {a : α}
    (h : (play env x s).2 = (.ok a, s')) :
    play env (x >>= f) s = ((play env x s).1 ++ (play env (f a) s').1, (play env (f a) s').2) := by
  rw [play] at h
  refine (Program.play_bind env (x.run s) _).trans ?_
  rw [h]
  rfl

/-- A sequence whose first part raises. -/
theorem play_bind_error {env : (c : Call) → Reply c} {f : α → Proc Call Reply σ ε β} {e : ε}
    (h : (play env x s).2 = (.error e, s')) :
    (play env (x >>= f) s).2 = (.error e, s') := by
  rw [play] at h
  refine (congrArg Prod.snd (Program.play_bind env (x.run s) _)).trans ?_
  rw [h]
  rfl

/-- Playing a process is a run of it. -/
theorem runs_play (env : (c : Call) → Reply c) (x : Proc Call Reply σ ε α) (s : σ) :
    Runs x s (play env x s).1 (play env x s).2.1 (play env x s).2.2 :=
  Program.runs_play env (x.run s)

/-- What holds of every answer of the environment holds of every event of a run against it. -/
theorem forall_mem_play {env : (c : Call) → Reply c} (h : ∀ c, P ⟨c, env c⟩)
    (x : Proc Call Reply σ ε α) (s : σ) : ∀ e ∈ (play env x s).1, P e :=
  Program.forall_mem_play h (x.run s)

end Proc

end QubesAdminLinux
