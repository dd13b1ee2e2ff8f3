import QubesAdminLinux.Lib.Program

/-! # Shell commands

The commands of a shell script as syntax, with the exit statuses and the option `errexit`.  A command
that fails ends the shell if the option is set, but not in the condition of an `if` statement nor on
the left of `||`, and then nowhere inside of such a command either.

* **`Cmd`** — the syntax: a simple command is a program over the variables of the shell.
* **`Cmd.exec`** — the meaning, told whether failures are ignored around the command.
* **`Cmd.plain`** — the meaning of a shell without the option.
* **`Cmd.ignoresErrexit`** — a check of the syntax that finds no place where the option matters.
* **`Cmd.runs_plain`** — a script that passes the check runs as if it never set the option. -/

namespace QubesAdminLinux

namespace Shell

open Proc

/-- How a command leaves the commands around it. -/
inductive Jump
  /-- The shell ends with a status. -/
  | exit (status : Nat)
  /-- `continue`. -/
  | nextItem
  deriving DecidableEq, Repr

/-- The state of a shell whose variables are a `V`. -/
structure State (V : Type) where
  /-- The variables. -/
  vars : V
  /-- The option `errexit`. -/
  errexit : Bool

/-- Commands. -/
inductive Cmd (Call : Type) (Reply : Call → Type) (V : Type) : Type
  /-- A simple command, which yields its status. -/
  | simple (body : Proc Call Reply V Jump Nat)
  /-- `set -e`. -/
  | setErrexit
  /-- `first; second`. -/
  | seq (first second : Cmd Call Reply V)
  /-- `first || second`. -/
  | orList (first second : Cmd Call Reply V)
  /-- `if condition; then yes; else no; fi`. -/
  | ifElse (condition yes no : Cmd Call Reply V)
  /-- `for variable in items; do body; done`. -/
  | forEach (items : V → List String) (assign : String → V → V) (body : Cmd Call Reply V)
  /-- `( body )`. -/
  | subshell (body : Cmd Call Reply V)

variable {Call : Type} {Reply : Call → Type} {V σ : Type}

/-- A program over the variables in a shell. -/
def liftVars {α : Type} (x : Proc Call Reply V Jump α) : Proc Call Reply (State V) Jump α :=
  ExceptT.mk fun s => (x.run s.vars).bind fun q => .pure (q.1, { s with vars := q.2 })

/-- What `errexit` does about the status of a command. -/
def checked (ignored : Bool) (status : Nat) : Proc Call Reply (State V) Jump Nat := do
  let s ← get
  if s.errexit = true ∧ ignored = false ∧ status ≠ 0 then throw (.exit status) else pure status

/-- What `continue` does to the body of a loop. -/
def catchNext : Jump → Proc Call Reply σ Jump Nat
  | .nextItem => pure 0
  | .exit status => throw (.exit status)

/-- The rest of a loop after a command with a status. -/
def forLoop (assign : String → σ → σ) (body : Proc Call Reply σ Jump Nat) (status : Nat) :
    List String → Proc Call Reply σ Jump Nat
  | [] => pure status
  | item :: rest => do
      let s ← get
      set (assign item s)
      let status ← tryCatch body catchNext
      forLoop assign body status rest

/-- The status of a subshell. -/
def subshellStatus : Except Jump Nat → Nat
  | .ok status => status
  | .error (.exit status) => status
  | .error .nextItem => 0

namespace Cmd

/-- A command that does nothing. -/
def skip : Cmd Call Reply V := .simple (pure 0)

/-- Commands one after the other. -/
def block : List (Cmd Call Reply V) → Cmd Call Reply V
  | [] => skip
  | [c] => c
  | c :: rest => .seq c (block rest)

/-- A test of the variables. -/
def test (p : V → Bool) : Cmd Call Reply V :=
  .simple do
    let v ← get
    pure (if p v then 0 else 1)

/-- An assignment, with the status of the command that it substitutes. -/
def assign (f : V → V) (status : V → Nat) : Cmd Call Reply V :=
  .simple do
    let v ← get
    set (f v)
    pure (status v)

/-- A call of another program. -/
def external (c : V → Call) (status : (v : V) → Reply (c v) → Nat) : Cmd Call Reply V :=
  .simple do
    let v ← get
    let reply ← request (c v)
    pure (status v reply)

/-- `continue`. -/
def continueLoop : Cmd Call Reply V := .simple (throw .nextItem)

/-- The meaning of a command. -/
def exec (ignored : Bool) : Cmd Call Reply V → Proc Call Reply (State V) Jump Nat
  | .simple body => do
      let status ← liftVars body
      checked ignored status
  | .setErrexit => do
      let s ← get
      set { s with errexit := true }
      pure 0
  | .seq first second => do
      let _ ← first.exec ignored
      second.exec ignored
  | .orList first second => do
      let status ← first.exec true
      if status = 0 then pure 0 else second.exec ignored
  | .ifElse condition yes no => do
      let status ← condition.exec true
      if status = 0 then yes.exec ignored else no.exec ignored
  | .forEach items assign body => do
      let s ← get
      forLoop (fun item s => { s with vars := assign item s.vars }) (body.exec ignored) 0
        (items s.vars)
  | .subshell body => do
      let s ← get
      let outcome ← observe (body.exec ignored)
      set s
      checked ignored (subshellStatus outcome)

/-- The meaning of a command in a shell without `errexit`. -/
def plain : Cmd Call Reply V → Proc Call Reply V Jump Nat
  | .simple body => body
  | .setErrexit => pure 0
  | .seq first second => do
      let _ ← first.plain
      second.plain
  | .orList first second => do
      let status ← first.plain
      if status = 0 then pure 0 else second.plain
  | .ifElse condition yes no => do
      let status ← condition.plain
      if status = 0 then yes.plain else no.plain
  | .forEach items assign body => do
      let v ← get
      forLoop assign body.plain 0 (items v)
  | .subshell body => do
      let v ← get
      let outcome ← observe body.plain
      set v
      pure (subshellStatus outcome)

/-- Whether a command leaves the option as it is. -/
def keepsErrexit : Cmd Call Reply V → Bool
  | .simple _ => true
  | .setErrexit => false
  | .seq first second => first.keepsErrexit && second.keepsErrexit
  | .orList first second => first.keepsErrexit && second.keepsErrexit
  | .ifElse condition yes no => condition.keepsErrexit && yes.keepsErrexit && no.keepsErrexit
  | .forEach _ _ body => body.keepsErrexit
  -- the shell around it has an option of its own
  | .subshell _ => true

/-- Whether `set -e` stands only where failures are ignored. -/
def ignoresErrexit : Cmd Call Reply V → Bool
  | .simple _ => true
  | .setErrexit => false
  | .seq first second => first.ignoresErrexit && second.ignoresErrexit
  | .orList first second => first.keepsErrexit && second.ignoresErrexit
  | .ifElse condition yes no =>
      condition.keepsErrexit && yes.ignoresErrexit && no.ignoresErrexit
  | .forEach _ _ body => body.ignoresErrexit
  | .subshell body => body.ignoresErrexit

end Cmd

/-! ## Rules -/

variable {s s' : State V} {t : List (Event Reply)}

/-- Code that only changes the variables keeps `errexit`. -/
theorem runs_liftVars {α : Type} {x : Proc Call Reply V Jump α} {r : Except Jump α} :
    Runs (liftVars x) s t r s' ↔ Runs x s.vars t r s'.vars ∧ s'.errexit = s.errexit := by
  rw [Runs]
  refine Program.runs_bind.trans ?_
  constructor
  · rintro ⟨⟨q, v⟩, t₁, t₂, rfl, h₁, h₂⟩
    obtain ⟨rfl, h⟩ := Program.runs_pure.mp h₂
    cases h
    rw [List.append_nil]
    exact ⟨h₁, rfl⟩
  · rintro ⟨h, herrexit⟩
    obtain ⟨v', errexit'⟩ := s'
    obtain rfl : errexit' = s.errexit := herrexit
    exact ⟨(r, v'), t, [], (List.append_nil t).symm, h, .pure _⟩

/-- A status is passed on where failures are ignored or the option is not set. -/
theorem runs_checked {ignored : Bool} {status : Nat} {r : Except Jump Nat}
    (hoff : ignored = true ∨ s.errexit = false)
    (h : Runs (checked ignored status : Proc Call Reply (State V) Jump Nat) s t r s') :
    t = [] ∧ r = .ok status ∧ s' = s := by
  have h := runs_get_bind.mp h
  rw [if_neg] at h
  · exact runs_pure.mp h
  · rintro ⟨hset, hnot, -⟩
    rcases hoff with hoff | hoff
    · rw [hoff] at hnot
      cases hnot
    · rw [hoff] at hset
      cases hset

/-- Looking at a status does not change the option. -/
theorem state_of_runs_checked {ignored : Bool} {status : Nat} {r : Except Jump Nat}
    (h : Runs (checked ignored status : Proc Call Reply (State V) Jump Nat) s t r s') : s' = s := by
  have h := runs_get_bind.mp h
  split at h
  · exact (runs_throw.mp h).2.2
  · exact (runs_pure.mp h).2.2

/-- The body of a loop, with `continue` caught. -/
theorem runs_tryCatch_catchNext {body : Proc Call Reply σ Jump Nat} {u u' : σ} {r : Except Jump Nat} :
    Runs (tryCatch body catchNext) u t r u' ↔
      (r ≠ .error .nextItem ∧ Runs body u t r u') ∨
      (r = .ok 0 ∧ Runs body u t (.error .nextItem) u') := by
  rw [runs_tryCatch]
  constructor
  · rintro (⟨a, rfl, h⟩ | ⟨jump, t₁, t₂, u₁, rfl, h₁, h₂⟩)
    · exact Or.inl ⟨by simp, h⟩
    · cases jump with
      | exit status =>
          obtain ⟨rfl, rfl, rfl⟩ := runs_throw.mp h₂
          rw [List.append_nil]
          exact Or.inl ⟨by simp, h₁⟩
      | nextItem =>
          obtain ⟨rfl, rfl, rfl⟩ := runs_pure.mp h₂
          rw [List.append_nil]
          exact Or.inr ⟨rfl, h₁⟩
  · rintro (⟨hr, h⟩ | ⟨rfl, h⟩)
    · rcases r with jump | status
      · cases jump with
        | exit status =>
            exact Or.inr ⟨_, t, [], u', by simp, h, runs_throw.mpr ⟨rfl, rfl, rfl⟩⟩
        | nextItem => exact absurd rfl hr
      · exact Or.inl ⟨status, rfl, h⟩
    · exact Or.inr ⟨_, t, [], u', by simp, h, runs_pure.mpr ⟨rfl, rfl, rfl⟩⟩

/-- The first item of a loop: the shell ends, or the loop goes on. -/
theorem runs_forLoop_cons {assign : String → σ → σ} {body : Proc Call Reply σ Jump Nat}
    {status : Nat} {item : String} {rest : List String} {u u' : σ} {r : Except Jump Nat} :
    Runs (forLoop assign body status (item :: rest)) u t r u' ↔
      (∃ code, r = .error (.exit code) ∧ Runs body (assign item u) t (.error (.exit code)) u') ∨
      (∃ status' t₁ t₂ u₁, t = t₁ ++ t₂ ∧ (Runs body (assign item u) t₁ (.ok status') u₁ ∨
          (status' = 0 ∧ Runs body (assign item u) t₁ (.error .nextItem) u₁)) ∧
        Runs (forLoop assign body status' rest) u₁ t₂ r u') := by
  rw [forLoop, runs_get_bind, runs_set_bind, runs_bind]
  constructor
  · rintro (⟨jump, rfl, h⟩ | ⟨status', t₁, t₂, u₁, rfl, h₁, h₂⟩)
    · rcases runs_tryCatch_catchNext.mp h with ⟨hjump, h⟩ | ⟨hr, -⟩
      · cases jump with
        | exit code => exact Or.inl ⟨code, rfl, h⟩
        | nextItem => exact absurd rfl hjump
      · cases hr
    · refine Or.inr ⟨status', t₁, t₂, u₁, rfl, ?_, h₂⟩
      rcases runs_tryCatch_catchNext.mp h₁ with ⟨-, h⟩ | ⟨hr, h⟩
      · exact Or.inl h
      · cases hr
        exact Or.inr ⟨rfl, h⟩
  · rintro (⟨code, rfl, h⟩ | ⟨status', t₁, t₂, u₁, rfl, h₁, h₂⟩)
    · exact Or.inl ⟨_, rfl, runs_tryCatch_catchNext.mpr (Or.inl ⟨by simp, h⟩)⟩
    · refine Or.inr ⟨status', t₁, t₂, u₁, rfl, runs_tryCatch_catchNext.mpr ?_, h₂⟩
      rcases h₁ with h | ⟨rfl, h⟩
      · exact Or.inl ⟨by simp, h⟩
      · exact Or.inr ⟨rfl, h⟩

/-- Two loops whose bodies and assignments correspond, as long as `I` holds. -/
theorem forLoop_corresponds {τ : Type} {f : σ → τ} {I : σ → Prop} {assign : String → σ → σ}
    {assign' : String → τ → τ} {body : Proc Call Reply σ Jump Nat}
    {body' : Proc Call Reply τ Jump Nat}
    (hassign : ∀ item u, I u → f (assign item u) = assign' item (f u) ∧ I (assign item u))
    (hbody : ∀ u t r u', I u → Runs body u t r u' → Runs body' (f u) t r (f u') ∧ I u')
    {items : List String} {status : Nat} {u u' : σ} {r : Except Jump Nat} (hu : I u)
    (h : Runs (forLoop assign body status items) u t r u') :
    Runs (forLoop assign' body' status items) (f u) t r (f u') ∧ I u' := by
  induction items generalizing status u t with
  | nil =>
      obtain ⟨rfl, rfl, rfl⟩ := runs_pure.mp h
      exact ⟨runs_pure.mpr ⟨rfl, rfl, rfl⟩, hu⟩
  | cons item rest ih =>
      obtain ⟨hf, hI⟩ := hassign item u hu
      rw [runs_forLoop_cons, ← hf]
      rcases runs_forLoop_cons.mp h with ⟨code, rfl, hexit⟩ | ⟨status', t₁, t₂, u₁, rfl, h₁, h₂⟩
      · obtain ⟨h', hu'⟩ := hbody _ _ _ _ hI hexit
        exact ⟨Or.inl ⟨code, rfl, h'⟩, hu'⟩
      · -- the body has returned a status, or has reached `continue`
        rcases h₁ with h₁ | ⟨rfl, h₁⟩
        · obtain ⟨h₁', hu₁⟩ := hbody _ _ _ _ hI h₁
          obtain ⟨h₂', hu'⟩ := ih hu₁ h₂
          exact ⟨Or.inr ⟨status', t₁, t₂, f u₁, rfl, Or.inl h₁', h₂'⟩, hu'⟩
        · obtain ⟨h₁', hu₁⟩ := hbody _ _ _ _ hI h₁
          obtain ⟨h₂', hu'⟩ := ih hu₁ h₂
          exact ⟨Or.inr ⟨0, t₁, t₂, f u₁, rfl, Or.inr ⟨rfl, h₁'⟩, h₂'⟩, hu'⟩

/-- What holds before a loop holds after it, if the body keeps it. -/
theorem forLoop_keeps {I : σ → Prop} {assign : String → σ → σ} {body : Proc Call Reply σ Jump Nat}
    (hassign : ∀ item u, I u → I (assign item u))
    (hbody : ∀ u t r u', I u → Runs body u t r u' → I u') {items : List String} {status : Nat}
    {u u' : σ} {r : Except Jump Nat} (hu : I u)
    (h : Runs (forLoop assign body status items) u t r u') : I u' := by
  have hassign' : ∀ item u, I u → id (assign item u) = assign item (id u) ∧ I (assign item u) :=
    fun item u hu => ⟨rfl, hassign item u hu⟩
  exact (forLoop_corresponds hassign' (fun u t r u' hu hrun => ⟨hrun, hbody u t r u' hu hrun⟩) hu h).2

namespace Cmd

/-- A command that passes the check leaves the option as it is. -/
theorem errexit_of_keeps {c : Cmd Call Reply V} {ignored : Bool} {r : Except Jump Nat}
    (hc : c.keepsErrexit = true) (h : Runs (c.exec ignored) s t r s') : s'.errexit = s.errexit := by
  induction c generalizing ignored s t r s' with
  | simple body =>
      rcases runs_bind.mp h with ⟨jump, -, hbody⟩ | ⟨status, t₁, t₂, s₁, -, hbody, hchecked⟩
      · exact (runs_liftVars.mp hbody).2
      · rw [state_of_runs_checked hchecked]
        exact (runs_liftVars.mp hbody).2
  | setErrexit => cases hc
  | seq first second ih₁ ih₂ =>
      rw [keepsErrexit, Bool.and_eq_true] at hc
      rcases runs_bind.mp h with ⟨jump, -, h₁⟩ | ⟨status, t₁, t₂, s₁, -, h₁, h₂⟩
      · exact ih₁ hc.1 h₁
      · exact (ih₂ hc.2 h₂).trans (ih₁ hc.1 h₁)
  | orList first second ih₁ ih₂ =>
      rw [keepsErrexit, Bool.and_eq_true] at hc
      rcases runs_bind.mp h with ⟨jump, -, h₁⟩ | ⟨status, t₁, t₂, s₁, -, h₁, h₂⟩
      · exact ih₁ hc.1 h₁
      · split at h₂
        · obtain ⟨-, -, rfl⟩ := runs_pure.mp h₂
          exact ih₁ hc.1 h₁
        · exact (ih₂ hc.2 h₂).trans (ih₁ hc.1 h₁)
  | ifElse condition yes no ih₀ ih₁ ih₂ =>
      rw [keepsErrexit, Bool.and_eq_true, Bool.and_eq_true] at hc
      rcases runs_bind.mp h with ⟨jump, -, h₀⟩ | ⟨status, t₁, t₂, s₁, -, h₀, h₁⟩
      · exact ih₀ hc.1.1 h₀
      · split at h₁
        · exact (ih₁ hc.1.2 h₁).trans (ih₀ hc.1.1 h₀)
        · exact (ih₂ hc.2 h₁).trans (ih₀ hc.1.1 h₀)
  | forEach items assign body ih =>
      rw [exec, runs_get_bind] at h
      refine forLoop_keeps (I := fun u => u.errexit = s.errexit) ?_ ?_ rfl h
      · exact fun _ _ hu => hu
      · exact fun _ _ _ _ hu hbody => (ih hc hbody).trans hu
  | subshell body ih =>
      have h := runs_get_bind.mp h
      rcases runs_bind.mp h with ⟨jump, -, hbody⟩ | ⟨outcome, t₁, t₂, s₁, -, hbody, hrest⟩
      · obtain ⟨_, hjump, -⟩ := runs_observe.mp hbody
        cases hjump
      · rw [state_of_runs_checked (runs_set_bind.mp hrest)]

/-- A command that has no effective `set -e` leaves the option as it is. -/
theorem keepsErrexit_of_ignores {c : Cmd Call Reply V} (hc : c.ignoresErrexit = true) :
    c.keepsErrexit = true := by
  induction c with
  | simple body => rfl
  | setErrexit => cases hc
  | seq first second ih₁ ih₂ =>
      rw [ignoresErrexit, Bool.and_eq_true] at hc
      rw [keepsErrexit, ih₁ hc.1, ih₂ hc.2]
      rfl
  | orList first second ih₁ ih₂ =>
      rw [ignoresErrexit, Bool.and_eq_true] at hc
      rw [keepsErrexit, hc.1, ih₂ hc.2]
      rfl
  | ifElse condition yes no ih₀ ih₁ ih₂ =>
      rw [ignoresErrexit, Bool.and_eq_true, Bool.and_eq_true] at hc
      rw [keepsErrexit, hc.1.1, ih₁ hc.1.2, ih₂ hc.2]
      rfl
  | forEach items assign body ih => exact ih hc
  | subshell body ih => rfl

/-- Where failures are ignored, and where the option is neither set nor set in effect, a command runs
as in a shell without the option. -/
theorem runs_plain {c : Cmd Call Reply V} {ignored : Bool} {r : Except Jump Nat}
    (hc : ignored = true ∨ (c.ignoresErrexit = true ∧ s.errexit = false))
    (h : Runs (c.exec ignored) s t r s') : Runs c.plain s.vars t r s'.vars := by
  induction c generalizing ignored s t r s' with
  | simple body =>
      have hbind := runs_bind.mp h
      rcases hbind with ⟨jump, rfl, hbody⟩ | ⟨status, t₁, t₂, s₁, rfl, hbody, hchecked⟩
      · exact (runs_liftVars.mp hbody).1
      · obtain ⟨hbody, herrexit⟩ := runs_liftVars.mp hbody
        have hoff : ignored = true ∨ s₁.errexit = false := by
          rw [herrexit]
          exact hc.imp_right And.right
        obtain ⟨rfl, rfl, rfl⟩ := runs_checked hoff hchecked
        rw [List.append_nil]
        exact hbody
  | setErrexit =>
      rw [exec, runs_get_bind, runs_set_bind] at h
      obtain ⟨rfl, rfl, rfl⟩ := runs_pure.mp h
      exact runs_pure.mpr ⟨rfl, rfl, rfl⟩
  | seq first second ih₁ ih₂ =>
      rw [ignoresErrexit, Bool.and_eq_true] at hc
      have hfirst : ignored = true ∨ (first.ignoresErrexit = true ∧ s.errexit = false) :=
        hc.imp_right fun hc => ⟨hc.1.1, hc.2⟩
      refine runs_bind.mpr ?_
      rcases runs_bind.mp h with ⟨jump, rfl, h₁⟩ | ⟨status, t₁, t₂, s₁, rfl, h₁, h₂⟩
      · exact Or.inl ⟨jump, rfl, ih₁ hfirst h₁⟩
      · refine Or.inr ⟨status, t₁, t₂, s₁.vars, rfl, ih₁ hfirst h₁, ih₂ ?_ h₂⟩
        exact hc.imp_right fun hc => ⟨hc.1.2,
          (errexit_of_keeps (keepsErrexit_of_ignores hc.1.1) h₁).trans hc.2⟩
  | orList first second ih₁ ih₂ =>
      rw [ignoresErrexit, Bool.and_eq_true] at hc
      refine runs_bind.mpr ?_
      rcases runs_bind.mp h with ⟨jump, rfl, h₁⟩ | ⟨status, t₁, t₂, s₁, rfl, h₁, h₂⟩
      · exact Or.inl ⟨jump, rfl, ih₁ (Or.inl rfl) h₁⟩
      · refine Or.inr ⟨status, t₁, t₂, s₁.vars, rfl, ih₁ (Or.inl rfl) h₁, ?_⟩
        split at h₂
        · rename_i hstatus
          obtain ⟨rfl, rfl, rfl⟩ := runs_pure.mp h₂
          rw [if_pos hstatus]
          exact runs_pure.mpr ⟨rfl, rfl, rfl⟩
        · rename_i hstatus
          rw [if_neg hstatus]
          exact ih₂ (hc.imp_right fun hc => ⟨hc.1.2, (errexit_of_keeps hc.1.1 h₁).trans hc.2⟩) h₂
  | ifElse condition yes no ih₀ ih₁ ih₂ =>
      rw [ignoresErrexit, Bool.and_eq_true, Bool.and_eq_true] at hc
      refine runs_bind.mpr ?_
      rcases runs_bind.mp h with ⟨jump, rfl, h₀⟩ | ⟨status, t₁, t₂, s₁, rfl, h₀, h₁⟩
      · exact Or.inl ⟨jump, rfl, ih₀ (Or.inl rfl) h₀⟩
      · refine Or.inr ⟨status, t₁, t₂, s₁.vars, rfl, ih₀ (Or.inl rfl) h₀, ?_⟩
        split at h₁
        · rename_i hstatus
          rw [if_pos hstatus]
          refine ih₁ (hc.imp_right fun hc => ⟨hc.1.1.2, ?_⟩) h₁
          exact (errexit_of_keeps hc.1.1.1 h₀).trans hc.2
        · rename_i hstatus
          rw [if_neg hstatus]
          refine ih₂ (hc.imp_right fun hc => ⟨hc.1.2, ?_⟩) h₁
          exact (errexit_of_keeps hc.1.1.1 h₀).trans hc.2
  | forEach items assign body ih =>
      have hbody : ∀ u t r u', (ignored = true ∨ (body.ignoresErrexit = true ∧ u.errexit = false)) →
          Runs (body.exec ignored) u t r u' → Runs body.plain u.vars t r u'.vars ∧
            (ignored = true ∨ (body.ignoresErrexit = true ∧ u'.errexit = false)) :=
        fun u _ _ _ hu hrun => ⟨ih hu hrun, hu.imp_right fun ⟨hb, hoff⟩ =>
          ⟨hb, (errexit_of_keeps (keepsErrexit_of_ignores hb) hrun).trans hoff⟩⟩
      rw [exec, runs_get_bind] at h
      rw [plain, runs_get_bind]
      refine (forLoop_corresponds (f := State.vars)
        (I := fun u => ignored = true ∨ (body.ignoresErrexit = true ∧ u.errexit = false))
        ?_ hbody hc h).1
      exact fun _ _ hu => ⟨rfl, hu⟩
  | subshell body ih =>
      rw [exec, runs_get_bind] at h
      rw [plain, runs_get_bind]
      refine runs_bind.mpr (Or.inr ?_)
      rcases runs_bind.mp h with ⟨jump, -, hbody⟩ | ⟨outcome, t₁, t₂, s₁, rfl, hbody, hrest⟩
      · obtain ⟨_, hjump, -⟩ := runs_observe.mp hbody
        cases hjump
      · -- the variables and the option are those of the shell around it again
        obtain ⟨outcome', houtcome, hbody⟩ := runs_observe.mp hbody
        cases houtcome
        obtain ⟨rfl, rfl, rfl⟩ := runs_checked (hc.imp_right And.right) (runs_set_bind.mp hrest)
        exact ⟨outcome, t₁, [], s₁.vars, rfl, runs_observe.mpr ⟨outcome, rfl, ih hc hbody⟩,
          runs_set_bind.mpr (runs_pure.mpr ⟨rfl, rfl, rfl⟩)⟩

/-! ### A shell without the option -/

variable {v v' : V} {r : Except Jump Nat} {c d : Cmd Call Reply V} {rest : List (Cmd Call Reply V)}

/-- Nothing is done. -/
theorem runs_skip : Runs (skip : Cmd Call Reply V).plain v t r v' ↔ t = [] ∧ r = .ok 0 ∧ v' = v :=
  runs_pure

/-- A test gives 0 or 1. -/
theorem runs_test {p : V → Bool} :
    Runs (test p : Cmd Call Reply V).plain v t r v'
      ↔ t = [] ∧ r = .ok (if p v then 0 else 1) ∧ v' = v :=
  runs_get_bind.trans runs_pure

/-- An assignment changes the variables. -/
theorem runs_assign {f : V → V} {status : V → Nat} :
    Runs (assign f status : Cmd Call Reply V).plain v t r v'
      ↔ t = [] ∧ r = .ok (status v) ∧ v' = f v :=
  runs_get_bind.trans (runs_set_bind.trans runs_pure)

/-- A program may reply anything. -/
theorem runs_external {call : V → Call} {status : (v : V) → Reply (call v) → Nat} :
    Runs (external call status : Cmd Call Reply V).plain v t r v'
      ↔ ∃ reply, t = [⟨call v, reply⟩] ∧ r = .ok (status v reply) ∧ v' = v := by
  refine runs_get_bind.trans (runs_request_bind.trans ?_)
  constructor
  · rintro ⟨reply, t', rfl, h⟩
    obtain ⟨rfl, rfl, rfl⟩ := runs_pure.mp h
    exact ⟨reply, rfl, rfl, rfl⟩
  · rintro ⟨reply, rfl, rfl, rfl⟩
    exact ⟨reply, [], rfl, runs_pure.mpr ⟨rfl, rfl, rfl⟩⟩

/-- The next item of a loop. -/
theorem runs_continueLoop :
    Runs (continueLoop : Cmd Call Reply V).plain v t r v'
      ↔ t = [] ∧ r = .error .nextItem ∧ v' = v :=
  runs_throw

/-- The first of several commands leaves them, or the others follow. -/
theorem runs_block_cons :
    Runs (block (c :: d :: rest)).plain v t r v' ↔
      (∃ jump, r = .error jump ∧ Runs c.plain v t (.error jump) v') ∨
      (∃ status t₁ t₂ v₁, t = t₁ ++ t₂ ∧ Runs c.plain v t₁ (.ok status) v₁ ∧
        Runs (block (d :: rest)).plain v₁ t₂ r v') :=
  runs_bind

/-- Commands after an assignment. -/
theorem runs_block_assign {f : V → V} {status : V → Nat} :
    Runs (block (assign f status :: d :: rest)).plain v t r v' ↔
      Runs (block (d :: rest)).plain (f v) t r v' := by
  rw [runs_block_cons]
  constructor
  · rintro (⟨jump, -, h⟩ | ⟨status', t₁, t₂, v₁, rfl, h₁, h₂⟩)
    · cases (runs_assign.mp h).2.1
    · obtain ⟨rfl, -, rfl⟩ := runs_assign.mp h₁
      exact h₂
  · intro h
    exact Or.inr ⟨status v, [], t, f v, rfl, runs_assign.mpr ⟨rfl, rfl, rfl⟩, h⟩

/-- An `if` statement whose condition is a test of the variables. -/
theorem runs_ifElse_test {p : V → Bool} :
    Runs (ifElse (test p) c d).plain v t r v' ↔
      (p v = true ∧ Runs c.plain v t r v') ∨ (p v = false ∧ Runs d.plain v t r v') := by
  rw [plain, runs_bind]
  constructor
  · rintro (⟨jump, -, h⟩ | ⟨status, t₁, t₂, v₁, rfl, h₁, h₂⟩)
    · cases (runs_test.mp h).2.1
    · obtain ⟨rfl, hstatus, rfl⟩ := runs_test.mp h₁
      cases hstatus
      cases hp : p v₁ with
      | true =>
          rw [hp] at h₂
          exact Or.inl ⟨rfl, h₂⟩
      | false =>
          rw [hp] at h₂
          exact Or.inr ⟨rfl, h₂⟩
  · rintro (⟨hp, h⟩ | ⟨hp, h⟩)
    · exact Or.inr ⟨0, [], t, v, rfl, runs_test.mpr ⟨rfl, by rw [hp]; rfl, rfl⟩, h⟩
    · exact Or.inr ⟨1, [], t, v, rfl, runs_test.mpr ⟨rfl, by rw [hp]; rfl, rfl⟩, h⟩

/-- What follows `||` runs if the first command fails. -/
theorem runs_orList :
    Runs (orList c d).plain v t r v' ↔
      (∃ jump, r = .error jump ∧ Runs c.plain v t (.error jump) v') ∨
      (r = .ok 0 ∧ Runs c.plain v t (.ok 0) v') ∨
      (∃ status t₁ t₂ v₁, status ≠ 0 ∧ t = t₁ ++ t₂ ∧ Runs c.plain v t₁ (.ok status) v₁ ∧
        Runs d.plain v₁ t₂ r v') := by
  rw [plain, runs_bind]
  constructor
  · rintro (hjump | ⟨status, t₁, t₂, v₁, rfl, h₁, h₂⟩)
    · exact Or.inl hjump
    · by_cases hstatus : status = 0
      · rw [if_pos hstatus] at h₂
        obtain ⟨rfl, rfl, rfl⟩ := runs_pure.mp h₂
        subst hstatus
        exact Or.inr (Or.inl ⟨rfl, by rwa [List.append_nil]⟩)
      · rw [if_neg hstatus] at h₂
        exact Or.inr (Or.inr ⟨status, t₁, t₂, v₁, hstatus, rfl, h₁, h₂⟩)
  · rintro (hjump | ⟨rfl, h⟩ | ⟨status, t₁, t₂, v₁, hstatus, rfl, h₁, h₂⟩)
    · exact Or.inl hjump
    · exact Or.inr ⟨0, t, [], v', (List.append_nil t).symm, h, runs_pure.mpr ⟨rfl, rfl, rfl⟩⟩
    · exact Or.inr ⟨status, t₁, t₂, v₁, rfl, h₁, by rwa [if_neg hstatus]⟩

/-- A subshell changes nothing around it. -/
theorem runs_subshell :
    Runs (subshell c).plain v t r v' ↔
      ∃ outcome v₁, Runs c.plain v t outcome v₁ ∧ r = .ok (subshellStatus outcome) ∧ v' = v := by
  rw [plain, runs_get_bind, runs_bind]
  constructor
  · rintro (⟨jump, -, h⟩ | ⟨outcome, t₁, t₂, v₁, rfl, h₁, h₂⟩)
    · obtain ⟨_, hjump, -⟩ := runs_observe.mp h
      cases hjump
    · obtain ⟨_, houtcome, h₁⟩ := runs_observe.mp h₁
      cases houtcome
      rw [runs_set_bind] at h₂
      obtain ⟨rfl, rfl, rfl⟩ := runs_pure.mp h₂
      exact ⟨outcome, v₁, by rwa [List.append_nil], rfl, rfl⟩
  · rintro ⟨outcome, v₁, h, rfl, rfl⟩
    exact Or.inr ⟨outcome, t, [], v₁, (List.append_nil t).symm,
      runs_observe.mpr ⟨outcome, rfl, h⟩, runs_set_bind.mpr (runs_pure.mpr ⟨rfl, rfl, rfl⟩)⟩

end Cmd

end Shell

end QubesAdminLinux
