import QubesAdminLinux.Lib.Program

/-! # Calls and the history before them

What a process may call can depend on what it has learnt from the calls before.

* **`Heeded`** — each call of a trace is allowed by the events before it; `heeded_iff` says this with the
  trace split at the call.
* **`Heeds`** — all traces of a process are such.
* **`heeds_bind`**, **`heeds_ask_bind`** — the rules for sequences: what follows may rely on the events of
  the first part. -/

namespace QubesAdminLinux

namespace Proc

variable {Call : Type} {Reply : Call → Type} {σ ε α β : Type}

/-! ## Traces -/

/-- Each call of a trace is allowed by the events before it, those of `past` included. -/
def Heeded (allowed : List (Event Reply) → Call → Prop) (past : List (Event Reply)) :
    List (Event Reply) → Prop
  | [] => True
  | e :: t => allowed past e.call ∧ Heeded allowed (past ++ [e]) t

variable {allowed : List (Event Reply) → Call → Prop} {past t t₁ t₂ : List (Event Reply)}

/-- Nothing is asked. -/
@[simp] theorem heeded_nil : Heeded allowed past [] := trivial

/-- One event and those after it. -/
@[simp] theorem heeded_cons {e : Event Reply} :
    Heeded allowed past (e :: t) ↔ allowed past e.call ∧ Heeded allowed (past ++ [e]) t := Iff.rfl

/-- Two parts of a trace. -/
theorem heeded_append :
    Heeded allowed past (t₁ ++ t₂) ↔ Heeded allowed past t₁ ∧ Heeded allowed (past ++ t₁) t₂ := by
  induction t₁ generalizing past with
  | nil => simp
  | cons e t ih =>
      rw [List.cons_append, heeded_cons, ih, heeded_cons, and_assoc, List.append_assoc]
      rfl

/-- A trace is heeded if each of its calls is allowed by what comes before it. -/
theorem heeded_iff : Heeded allowed past t ↔
    ∀ t₁ e t₂, t = t₁ ++ e :: t₂ → allowed (past ++ t₁) e.call := by
  constructor
  · rintro h t₁ e t₂ rfl
    exact (heeded_append.mp h).2.1
  · intro h
    induction t generalizing past with
    | nil => exact heeded_nil
    | cons e t ih =>
        refine heeded_cons.mpr ⟨?_, ih fun t₁ e' t₂ heq => ?_⟩
        · simpa using h [] e t rfl
        · have hlater := h (e :: t₁) e' t₂ (by rw [heq]; rfl)
          rwa [List.append_assoc]

/-! ## Processes -/

/-- Each call of a process is allowed by the events before it. -/
def Heeds (allowed : List (Event Reply) → Call → Prop) (past : List (Event Reply))
    (x : Proc Call Reply σ ε α) : Prop :=
  ∀ s t r s', Runs x s t r s' → Heeded allowed past t

variable {x : Proc Call Reply σ ε α} {f : α → Proc Call Reply σ ε β}

/-- Returning. -/
theorem heeds_pure {a : α} : Heeds allowed past (pure a : Proc Call Reply σ ε α) := by
  intro s t r s' h
  rw [(runs_pure.mp h).1]
  exact heeded_nil

/-- Raising. -/
theorem heeds_throw {exc : ε} : Heeds allowed past (throw exc : Proc Call Reply σ ε α) := by
  intro s t r s' h
  rw [(runs_throw.mp h).1]
  exact heeded_nil

/-- What has happened may be enough to allow everything. -/
theorem heeds_of_past (h : ∀ t c, allowed (past ++ t) c) (x : Proc Call Reply σ ε α) :
    Heeds allowed past x := by
  intro s t r s' hrun
  exact heeded_iff.mpr fun t₁ e t₂ ht => h t₁ e.call

/-- An allowed request. -/
theorem heeds_ask {c : Call} {g : Reply c → Except ε α} (h : allowed past c) :
    Heeds allowed past (ask c g : Proc Call Reply σ ε α) := by
  intro s t r s' hrun
  obtain ⟨a, rfl, -, -⟩ := runs_ask.mp hrun
  exact heeded_cons.mpr ⟨h, heeded_nil⟩

/-- What follows may rely on the events of the first part. -/
theorem heeds_bind (hx : Heeds allowed past x)
    (hf : ∀ s t a s', Runs x s t (.ok a) s' → Heeds allowed (past ++ t) (f a)) :
    Heeds allowed past (x >>= f) := by
  intro s t r s' hrun
  rcases runs_bind.mp hrun with ⟨exc, -, hrun⟩ | ⟨a, t₁, t₂, s₁, rfl, h₁, h₂⟩
  · exact hx _ _ _ _ hrun
  · exact heeded_append.mpr ⟨hx _ _ _ _ h₁, hf _ _ _ _ h₁ _ _ _ _ h₂⟩

/-- A call, and what follows it. -/
theorem heeds_request_bind {c : Call} {f : Reply c → Proc Call Reply σ ε β} (h : allowed past c)
    (hf : ∀ a, Heeds allowed (past ++ [⟨c, a⟩]) (f a)) : Heeds allowed past (request c >>= f) := by
  intro s t r s' hrun
  obtain ⟨a, t', rfl, hrest⟩ := runs_request_bind.mp hrun
  exact heeded_cons.mpr ⟨h, hf a _ _ _ _ hrest⟩

/-- A call whose reply is returned or raised, and what follows it. -/
theorem heeds_ask_bind {c : Call} {g : Reply c → Except ε α} (h : allowed past c)
    (hf : ∀ reply a, g reply = .ok a → Heeds allowed (past ++ [⟨c, reply⟩]) (f a)) :
    Heeds allowed past (ask c g >>= f) := by
  refine heeds_bind (heeds_ask h) fun s t a s' hrun => ?_
  obtain ⟨reply, rfl, hg, -⟩ := runs_ask.mp hrun
  exact hf reply a hg.symm

/-- A handler may rely on the events of the guarded part. -/
theorem heeds_tryCatch {handler : ε → Proc Call Reply σ ε α} (hx : Heeds allowed past x)
    (hh : ∀ s t exc s', Runs x s t (.error exc) s' → Heeds allowed (past ++ t) (handler exc)) :
    Heeds allowed past (tryCatch x handler) := by
  intro s t r s' hrun
  rcases runs_tryCatch.mp hrun with ⟨a, -, hrun⟩ | ⟨exc, t₁, t₂, s₁, rfl, h₁, h₂⟩
  · exact hx _ _ _ _ hrun
  · exact heeded_append.mpr ⟨hx _ _ _ _ h₁, hh _ _ _ _ h₁ _ _ _ _ h₂⟩

/-- A process whose calls are allowed whatever comes before them. -/
theorem Emits.heeds {P : Event Reply → Prop} (h : Emits P x)
    (himp : ∀ before e, P e → allowed before e.call) : Heeds allowed past x := by
  intro s t r s' hrun
  rw [heeded_iff]
  rintro t₁ e t₂ rfl
  exact himp _ _ (h s _ r s' hrun e (by simp))

/-- What is allowed may be less than what is asked for. -/
theorem Heeds.imp {allowed' : List (Event Reply) → Call → Prop} (h : Heeds allowed past x)
    (himp : ∀ before c, allowed before c → allowed' before c) : Heeds allowed' past x := by
  intro s t r s' hrun
  rw [heeded_iff]
  exact fun t₁ e t₂ heq => himp _ _ (heeded_iff.mp (h s t r s' hrun) t₁ e t₂ heq)

/-- What holds of each allowed call holds of each event. -/
theorem Heeds.emits {P : Call → Prop} (h : Heeds allowed past x)
    (himp : ∀ before c, allowed before c → P c) : Emits (fun e => P e.call) x := by
  intro s t r s' hrun e he
  obtain ⟨t₁, t₂, rfl⟩ := List.append_of_mem he
  exact himp _ _ (heeded_iff.mp (h s _ r s' hrun) t₁ e t₂ rfl)

end Proc

end QubesAdminLinux
