import Mathlib.Order.Basic
import Mathlib.Control.Monad.Basic

/-! # Programs with a state and exceptions

`StateExcept σ ε` is the monad of code that changes a state of type `σ` and may stop early with an
exception of type `ε`; what it has done to the state before an exception stays done.

* **`filterExcept`** — filtering by a test that may raise; `filterExcept_eq_ok` says when it returns.
* **`exec`** — the outcome and the final state of such code, with one rule for each statement form:
  `exec_pure`, `exec_throw`, `exec_get`, `exec_modify`, `exec_bind`, `exec_bind_error`.
* **`exec_bind_ok`** — what a sequence that returns has done.
* **`exec_zoom`** — code for a part of the state, run on the whole state, with `exec_zoom_ok` and
  `exec_zoom_id` for known results; **`attempt`** catches its exceptions.
* **`record`** — code that also keeps a journal; **`Erases`** — without the journal it is the same
  code, proved statement by statement.
* **`Keeps`** — some part of the state stays the same; **`Returns`** — what is returned satisfies a
  predicate; **`LogsFrom`** — some part of the state is a log that only grows, by certain entries.
* **`Advances`** — an exception is only raised after the state has made a strict step forward in a
  measure that never decreases; proved statement by statement. -/

namespace QubesAdminLinux

/-- Code with a state that survives exceptions. -/
abbrev StateExcept (σ ε α : Type) : Type := ExceptT ε (StateM σ) α

/-- Code without a state returns if both of its parts do. -/
theorem bind_eq_ok {ε α β : Type} {x : Except ε α} {f : α → Except ε β} {b : β} :
    x >>= f = .ok b ↔ ∃ a, x = .ok a ∧ f a = .ok b := by
  constructor
  · intro h
    cases x with
    | error e => cases h
    | ok a => exact ⟨a, rfl, h⟩
  · rintro ⟨a, rfl, h⟩
    exact h

/-- The elements that pass a test which may raise; the first exception ends the filtering. -/
def filterExcept {ε α : Type} (p : α → Except ε Bool) : List α → Except ε (List α)
  | [] => .ok []
  | a :: rest =>
      match p a with
      | .error e => .error e
      | .ok passed => (filterExcept p rest).map fun kept => if passed then a :: kept else kept

/-- Whether a test has returned `true`. -/
def passes {ε : Type} : Except ε Bool → Bool
  | .ok passed => passed
  | .error _ => false

/-- Filtering returns if and only if every test does. -/
theorem filterExcept_eq_ok {ε α : Type} {p : α → Except ε Bool} {l kept : List α} :
    filterExcept p l = .ok kept
      ↔ (∀ a ∈ l, ∃ passed, p a = .ok passed) ∧ kept = l.filter fun a => passes (p a) := by
  induction l generalizing kept with
  | nil => simp [filterExcept, eq_comm]
  | cons a rest ih =>
      rw [filterExcept, List.forall_mem_cons, List.filter_cons]
      cases ha : p a with
      | error e => simp
      | ok passed =>
          have hexists : ∃ b, (.ok passed : Except ε Bool) = .ok b := ⟨passed, rfl⟩
          rw [and_iff_right hexists, passes]
          dsimp only
          cases hrest : filterExcept p rest with
          | error e =>
              -- a later test raises
              have hnone : ∀ l', ¬ (filterExcept p rest = .ok l') := by
                rw [hrest]
                exact fun l' => nofun
              apply iff_of_false
              · exact nofun
              · rintro ⟨hall, -⟩
                exact hnone _ (ih.mpr ⟨hall, rfl⟩)
          | ok l' =>
              obtain ⟨hall, rfl⟩ := ih.mp hrest
              rw [and_iff_right hall]
              constructor
              · intro h
                exact (Except.ok.inj h).symm
              · rintro rfl
                rfl

/-- Filtering raises what one of the tests raises. -/
theorem exists_of_filterExcept_eq_error {ε α : Type} {p : α → Except ε Bool} {l : List α} {e : ε}
    (h : filterExcept p l = .error e) : ∃ a ∈ l, p a = .error e := by
  induction l with
  | nil => cases h
  | cons a rest ih =>
      rw [filterExcept] at h
      cases ha : p a with
      | error e' =>
          rw [ha] at h
          cases h
          exact ⟨a, List.mem_cons_self, ha⟩
      | ok passed =>
          simp only [ha] at h
          cases hrest : filterExcept p rest with
          | error e' =>
              rw [hrest] at h
              cases h
              obtain ⟨b, hb, hraises⟩ := ih hrest
              exact ⟨b, List.mem_cons_of_mem a hb, hraises⟩
          | ok kept =>
              rw [hrest] at h
              cases h

namespace StateExcept

variable {σ τ ε ε' α β : Type}

/-- The outcome and the final state of some code. -/
def exec (x : StateExcept σ ε α) (s : σ) : Except ε α × σ := x.run.run s

variable {x : StateExcept σ ε α} {s s' : σ}

/-- Returning. -/
@[simp] theorem exec_pure (a : α) : exec (pure a : StateExcept σ ε α) s = (.ok a, s) := rfl

/-- Raising. -/
@[simp] theorem exec_throw (e : ε) : exec (throw e : StateExcept σ ε α) s = (.error e, s) := rfl

/-- Reading the state. -/
@[simp] theorem exec_get : exec (get : StateExcept σ ε σ) s = (.ok s, s) := rfl

/-- Changing the state. -/
@[simp] theorem exec_modify (f : σ → σ) :
    exec (modify f : StateExcept σ ε Unit) s = (.ok (), f s) := rfl

/-- A sequence whose first part returns goes on with its second part. -/
theorem exec_bind {a : α} (h : exec x s = (.ok a, s')) (f : α → StateExcept σ ε β) :
    exec (x >>= f) s = exec (f a) s' := by
  rw [exec] at h
  rw [exec, ExceptT.run_bind, StateT.run_bind, h]
  rfl

/-- A sequence whose first part raises is not continued. -/
theorem exec_bind_error {e : ε} (h : exec x s = (.error e, s')) (f : α → StateExcept σ ε β) :
    exec (x >>= f) s = (.error e, s') := by
  rw [exec] at h
  rw [exec, ExceptT.run_bind, StateT.run_bind, h]
  rfl

/-- A sequence that returns is two parts that return. -/
theorem exec_bind_ok {f : α → StateExcept σ ε β} {b : β} {s₂ : σ}
    (h : exec (x >>= f) s = (.ok b, s₂)) :
    ∃ a s₁, exec x s = (.ok a, s₁) ∧ exec (f a) s₁ = (.ok b, s₂) := by
  cases hx : exec x s with
  | mk q s₁ =>
      cases q with
      | error e =>
          rw [exec_bind_error hx] at h
          cases h
      | ok a =>
          rw [exec_bind hx] at h
          exact ⟨a, s₁, rfl, h⟩

/-- Code that does nothing but return or raise. -/
def ofResult (q : Except ε α) : StateExcept σ ε α := ExceptT.mk fun s => (q, s)

/-- A given result. -/
@[simp] theorem exec_ofResult (q : Except ε α) :
    exec (ofResult q : StateExcept σ ε α) s = (q, s) := rfl

/-- Run code for the part `τ` of a state, and embed its exceptions. -/
def zoom (view : σ → τ) (put : τ → σ → σ) (raise : ε' → ε) (x : StateExcept τ ε' α) :
    StateExcept σ ε α :=
  ExceptT.mk fun s =>
    let result := exec x (view s)
    (result.1.mapError raise, put result.2 s)

/-- Code for a part of the state changes this part. -/
theorem exec_zoom (view : σ → τ) (put : τ → σ → σ) (raise : ε' → ε) (x : StateExcept τ ε' α)
    (s : σ) :
    exec (zoom view put raise x) s
      = ((exec x (view s)).1.mapError raise, put (exec x (view s)).2 s) := rfl

/-- Code for a part of the state that returns. -/
theorem exec_zoom_ok {view : σ → τ} (put : τ → σ → σ) (raise : ε' → ε) {x : StateExcept τ ε' α}
    {s : σ} {t : τ} {a : α} (h : exec x (view s) = (.ok a, t)) :
    exec (zoom view put raise x) s = (.ok a, put t s) := by
  rw [exec_zoom, h]
  rfl

/-- Code for a part of the state whose exceptions are passed on. -/
theorem exec_zoom_id {view : σ → τ} (put : τ → σ → σ) {x : StateExcept τ ε α} {s : σ} {t : τ}
    {r : Except ε α} (h : exec x (view s) = (r, t)) : exec (zoom view put id x) s = (r, put t s) := by
  rw [exec_zoom, h]
  cases r with
  | ok _ => rfl
  | error _ => rfl

/-- Run code for the part `τ` of a state and catch its exceptions. -/
def attempt (view : σ → τ) (put : τ → σ → σ) (x : StateExcept τ ε' α) :
    StateExcept σ ε (Except ε' α) :=
  ExceptT.mk fun s =>
    let result := exec x (view s)
    (.ok result.1, put result.2 s)

/-- The exceptions of code for a part of the state are returned. -/
@[simp] theorem exec_attempt (view : σ → τ) (put : τ → σ → σ) (x : StateExcept τ ε' α) (s : σ) :
    exec (attempt view put x : StateExcept σ ε (Except ε' α)) s
      = (.ok (exec x (view s)).1, put (exec x (view s)).2 s) := rfl

/-! ## Journals -/

section Journal

/-- Run code for the part `τ` of a state, and note what it has returned, from which part to which,
unless it has raised. -/
def record (view : σ → τ) (put : τ → σ → σ) (note : α → τ → τ → σ → σ) (x : StateExcept τ ε α) :
    StateExcept σ ε α := do
  let s ← get
  let a ← zoom view put id x
  modify fun s' => note a (view s) (view s') s'
  pure a

/-- A recorded run that returns is a run of the code, followed by the note. -/
theorem exec_record_ok {view : σ → τ} {put : τ → σ → σ} {note : α → τ → τ → σ → σ}
    (hput : ∀ t s, view (put t s) = t) {x : StateExcept τ ε α} {s s' : σ} {a : α}
    (h : exec (record view put note x) s = (.ok a, s')) :
    exec x (view s) = (.ok a, (exec x (view s)).2) ∧
      s' = note a (view s) (exec x (view s)).2 (put (exec x (view s)).2 s) := by
  unfold record at h
  obtain ⟨s₀, s₁, hget, h⟩ := exec_bind_ok h
  rw [exec_get] at hget
  cases hget
  obtain ⟨a', s₂, hzoom, h⟩ := exec_bind_ok h
  rw [exec_zoom] at hzoom
  obtain ⟨hresult, rfl⟩ := Prod.mk.inj hzoom
  rw [exec_bind (exec_modify _), exec_pure] at h
  obtain ⟨ha, hs'⟩ := Prod.mk.inj h
  cases ha
  -- the embedding of the exceptions does not touch a returned value
  have hok : (exec x (view s)).1 = .ok a := by
    cases hq : (exec x (view s)).1 with
    | error e =>
        rw [hq] at hresult
        cases hresult
    | ok b =>
        rw [hq] at hresult
        cases hresult
        rfl
  rw [hput] at hs'
  exact ⟨Prod.ext hok rfl, hs'.symm⟩

/-- Seen through `view`, the code `x'` does the same as `x`. -/
def Erases (view : σ → τ) (x' : StateExcept σ ε α) (x : StateExcept τ ε α) : Prop :=
  ∀ s, exec x (view s) = ((exec x' s).1, view (exec x' s).2)

variable {view : σ → τ}

/-- Returning. -/
theorem erases_pure (a : α) :
    Erases view (pure a : StateExcept σ ε α) (pure a : StateExcept τ ε α) := fun _ => rfl

/-- Corresponding changes of the state. -/
theorem erases_modify {f' : σ → σ} {f : τ → τ} (h : ∀ s, view (f' s) = f (view s)) :
    Erases view (modify f' : StateExcept σ ε Unit) (modify f : StateExcept τ ε Unit) := by
  intro s
  rw [exec_modify, exec_modify, h]

/-- Corresponding sequences. -/
theorem erases_bind {x' : StateExcept σ ε α} {y : StateExcept τ ε α}
    {f' : α → StateExcept σ ε β} {f : α → StateExcept τ ε β} (hx : Erases view x' y)
    (hf : ∀ a, Erases view (f' a) (f a)) : Erases view (x' >>= f') (y >>= f) := by
  intro s
  have hfirst := hx s
  cases hexec : exec x' s with
  | mk q s₁ =>
      rw [hexec] at hfirst
      cases q with
      -- both sides stop here, with the same exception
      | error e => rw [exec_bind_error hfirst, exec_bind_error hexec]
      | ok a => rw [exec_bind hfirst, exec_bind hexec, hf a s₁]

/-- Code on a part of the state is what is seen of it. -/
theorem erases_zoom {put : τ → σ → σ} (hput : ∀ t s, view (put t s) = t)
    (x : StateExcept τ ε α) : Erases view (zoom view put id x) x := by
  intro s
  rw [exec_zoom, hput]
  cases hexec : exec x (view s) with
  | mk q s₁ => cases q <;> rfl

/-- Keeping a journal does not change what the code does. -/
theorem erases_record {put : τ → σ → σ} {note : α → τ → τ → σ → σ}
    (hput : ∀ t s, view (put t s) = t) (hnote : ∀ a t t' s, view (note a t t' s) = view s)
    (x : StateExcept τ ε α) : Erases view (record view put note x) x := by
  intro s
  have hzoom := erases_zoom hput x s
  unfold record
  rw [exec_bind exec_get]
  cases hexec : exec (zoom view put id x) s with
  | mk q s₁ =>
      rw [hexec] at hzoom
      cases q with
      | error e => rw [exec_bind_error hexec, hzoom]
      | ok a =>
          rw [exec_bind hexec, exec_bind (exec_modify _), exec_pure, hzoom]
          exact Prod.ext rfl (hnote a _ _ s₁).symm

end Journal

/-! ## Parts of the state that stay the same -/

/-- Some part of the state is the same afterwards, whatever the outcome is. -/
def Keeps (part : σ → τ) (x : StateExcept σ ε α) : Prop := ∀ s, part (exec x s).2 = part s

/-- Returning. -/
theorem keeps_pure {part : σ → τ} (a : α) : Keeps part (pure a : StateExcept σ ε α) := fun _ => rfl

/-- What both parts of a sequence keep. -/
theorem keeps_bind {part : σ → τ} {f : α → StateExcept σ ε β} (hx : Keeps part x)
    (hf : ∀ a, Keeps part (f a)) : Keeps part (x >>= f) := by
  intro s
  have hfirst := hx s
  cases hexec : exec x s with
  | mk q s₁ =>
      rw [hexec] at hfirst
      cases q with
      | error e => rw [exec_bind_error hexec, hfirst]
      | ok a => rw [exec_bind hexec, hf a s₁, hfirst]

/-- Code for one part of the state keeps the other parts. -/
theorem keeps_zoom {γ : Type} {part : σ → γ} {view : σ → τ} {put : τ → σ → σ} {raise : ε' → ε}
    (h : ∀ t s, part (put t s) = part s) (x : StateExcept τ ε' α) :
    Keeps part (zoom view put raise x) := fun s => h (exec x (view s)).2 s

/-- Catching the exceptions of code for one part of the state. -/
theorem keeps_attempt {γ : Type} {part : σ → γ} {view : σ → τ} {put : τ → σ → σ}
    (h : ∀ t s, part (put t s) = part s) (x : StateExcept τ ε' α) :
    Keeps part (attempt view put x : StateExcept σ ε (Except ε' α)) :=
  fun s => h (exec x (view s)).2 s

/-! ## Values that are returned -/

section Returns

variable {P : α → Prop} {Q : β → Prop}

/-- Whatever is returned satisfies `P`. -/
def Returns (P : α → Prop) (x : StateExcept σ ε α) : Prop :=
  ∀ s a s', exec x s = (.ok a, s') → P a

/-- Returning such a value. -/
theorem returns_pure {a : α} (h : P a) : Returns P (pure a : StateExcept σ ε α) := by
  intro s b s' hexec
  rw [exec_pure] at hexec
  cases hexec
  exact h

/-- The second part of a sequence returns its value. -/
theorem returns_bind {f : α → StateExcept σ ε β} (hx : Returns P x)
    (hf : ∀ a, P a → Returns Q (f a)) : Returns Q (x >>= f) := by
  intro s b s' hexec
  obtain ⟨a, s₁, hfirst, hsecond⟩ := exec_bind_ok hexec
  exact hf a (hx s a s₁ hfirst) s₁ b s' hsecond

/-- Whatever the first part returns. -/
theorem returns_bind' {f : α → StateExcept σ ε β} (hf : ∀ a, Returns Q (f a)) :
    Returns Q (x >>= f) := by
  intro s b s' hexec
  obtain ⟨a, s₁, -, hsecond⟩ := exec_bind_ok hexec
  exact hf a s₁ b s' hsecond

/-- The second part of a sequence has to keep a part of the state for the values that the first part
returns. -/
theorem keeps_bind_of_returns {part : σ → τ} {f : α → StateExcept σ ε β} (hx : Keeps part x)
    (hreturns : Returns P x) (hf : ∀ a, P a → Keeps part (f a)) : Keeps part (x >>= f) := by
  intro s
  have hfirst := hx s
  cases hexec : exec x s with
  | mk q s₁ =>
      rw [hexec] at hfirst
      cases q with
      | error e => rw [exec_bind_error hexec, hfirst]
      | ok a => rw [exec_bind hexec, hf a (hreturns s a s₁ hexec) s₁, hfirst]

/-- A value that is returned under `attempt` is one of the code. -/
theorem returns_attempt {x : StateExcept τ ε' α} {view : σ → τ} {put : τ → σ → σ}
    (hx : Returns P x) :
    Returns (fun outcome => ∀ a, outcome = .ok a → P a)
      (attempt view put x : StateExcept σ ε (Except ε' α)) := by
  intro s outcome s' hexec a houtcome
  rw [exec_attempt] at hexec
  obtain ⟨hok, -⟩ := Prod.mk.inj hexec
  have hret : (exec x (view s)).1 = .ok a := (Except.ok.inj hok).trans houtcome
  exact hx (view s) a _ (Prod.ext hret rfl)

end Returns

/-! ## Logs -/

section Logs

variable {log : σ → List τ} {P Q : τ → Prop}

/-- Started in the state `s`, code only adds entries in `P` to the end of a log, whatever the outcome
is. -/
def LogsFrom (log : σ → List τ) (P : τ → Prop) (x : StateExcept σ ε α) (s : σ) : Prop :=
  ∃ more, log (exec x s).2 = log s ++ more ∧ ∀ entry ∈ more, P entry

/-- Code that leaves the log alone. -/
theorem logsFrom_of_eq (h : log (exec x s).2 = log s) : LogsFrom log P x s :=
  ⟨[], by rw [h, List.append_nil], fun _ hmem => absurd hmem List.not_mem_nil⟩

/-- Code that adds one entry. -/
theorem logsFrom_of_append {entry : τ} (h : log (exec x s).2 = log s ++ [entry]) (hentry : P entry) :
    LogsFrom log P x s :=
  ⟨[entry], h, List.forall_mem_singleton.mpr hentry⟩

/-- Fewer entries are allowed by a stronger predicate. -/
theorem LogsFrom.mono (h : LogsFrom log P x s) (himp : ∀ entry, P entry → Q entry) :
    LogsFrom log Q x s := by
  obtain ⟨more, hlog, hmore⟩ := h
  exact ⟨more, hlog, fun entry hmem => himp entry (hmore entry hmem)⟩

/-- The entries of a sequence; the second part is only looked at in the states that the first part
leads to. -/
theorem logsFrom_bind {f : α → StateExcept σ ε β} (hx : LogsFrom log P x s)
    (hf : ∀ a s', exec x s = (.ok a, s') → LogsFrom log P (f a) s') :
    LogsFrom log P (x >>= f) s := by
  obtain ⟨first, hfirst, hP⟩ := hx
  cases hexec : exec x s with
  | mk q s₁ =>
      rw [hexec] at hfirst
      cases q with
      | error e => exact ⟨first, by rw [exec_bind_error hexec, hfirst], hP⟩
      | ok a =>
          obtain ⟨second, hsecond, hP'⟩ := hf a s₁ hexec
          refine ⟨first ++ second, ?_, List.forall_mem_append.mpr ⟨hP, hP'⟩⟩
          rw [exec_bind hexec, hsecond, hfirst, List.append_assoc]

end Logs

/-! ## Exceptions that leave a trace -/

section Advances

variable {M : Type} [Preorder M]

/-- A measure of the state never decreases, and is strictly larger after an exception. -/
def Advances (measure : σ → M) (x : StateExcept σ ε α) : Prop :=
  ∀ s, measure s ≤ measure (exec x s).2 ∧
    ∀ e, (exec x s).1 = .error e → measure s < measure (exec x s).2

variable {measure : σ → M}

/-- Returning. -/
theorem advances_pure (a : α) : Advances measure (pure a : StateExcept σ ε α) :=
  fun _ => ⟨le_rfl, fun _ h => by cases h⟩

/-- Reading the state. -/
theorem advances_get : Advances measure (get : StateExcept σ ε σ) :=
  fun _ => ⟨le_rfl, fun _ h => by cases h⟩

/-- A change of the state that keeps the measure. -/
theorem advances_modify {f : σ → σ} (h : ∀ s, measure (f s) = measure s) :
    Advances measure (modify f : StateExcept σ ε Unit) := by
  intro s
  rw [exec_modify]
  exact ⟨(h s).ge, fun _ he => by cases he⟩

/-- The measure grows along a sequence. -/
theorem advances_bind {f : α → StateExcept σ ε β} (hx : Advances measure x)
    (hf : ∀ a, Advances measure (f a)) : Advances measure (x >>= f) := by
  intro s
  obtain ⟨hle, hlt⟩ := hx s
  cases hexec : exec x s with
  | mk q s₁ =>
      rw [hexec] at hle hlt
      cases q with
      -- the exception of the first part is the exception of the sequence
      | error e =>
          rw [exec_bind_error hexec]
          exact ⟨hle, fun _ _ => hlt e rfl⟩
      -- the strict step of the second part comes after a step that does not go back
      | ok a =>
          rw [exec_bind hexec]
          obtain ⟨hle', hlt'⟩ := hf a s₁
          exact ⟨hle.trans hle', fun e he => lt_of_le_of_lt hle (hlt' e he)⟩

/-- After a strict step forward, anything that does not go back may follow, even an exception. -/
theorem advances_bind_of_lt {f : α → StateExcept σ ε β}
    (hx : ∀ s, ∃ a s', exec x s = (.ok a, s') ∧ measure s < measure s')
    (hf : ∀ a s, measure s ≤ measure (exec (f a) s).2) : Advances measure (x >>= f) := by
  intro s
  obtain ⟨a, s', hexec, hlt⟩ := hx s
  rw [exec_bind hexec]
  have hgrow := lt_of_lt_of_le hlt (hf a s')
  exact ⟨hgrow.le, fun _ _ => hgrow⟩

end Advances

end StateExcept

end QubesAdminLinux
