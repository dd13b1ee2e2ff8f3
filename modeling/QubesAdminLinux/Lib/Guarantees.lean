import QubesAdminLinux.Lib.Threads

/-! # What holds while a program works on a memory

Triples for a program that is alone with a memory: with the postcondition of an ordinary triple comes an
invariant, which holds after every single answer, so that it also holds if the program is stopped anywhere.

* **`Guarantees`** — the triples.
* **`guarantees_request`**, **`guarantees_bind`**, **`guarantees_ite`** — the rules for the statements.
* **`Guarantees.stopped`** — what is left of the memory by a run that has been stopped. -/

namespace QubesAdminLinux

namespace Proc

variable {Call : Type} {Reply : Call → Type} {σ Signal V ε α β : Type}

/-- From a memory with `P` on, the memory has `I` after each answer, and `Q` if the program returns. -/
def Guarantees (mem : Memory σ Signal Reply) (I P : σ → Prop) (x : Proc Call Reply V ε α)
    (Q : α → σ → Prop) : Prop :=
  ∀ s, P s → ∀ v t r v', Runs x v t r v' →
    (∀ t₁ t₂, t = t₁ ++ t₂ → mem.Serves s t₁ → I (mem.after s t₁)) ∧
      ∀ a, r = .ok a → mem.Serves s t → Q a (mem.after s t)

variable {mem : Memory σ Signal Reply} {I P P' : σ → Prop} {x : Proc Call Reply V ε α}
  {Q Q' : α → σ → Prop}

/-- What is left by a run that has been stopped. -/
theorem Guarantees.stopped (h : Guarantees mem I P x Q) {s : σ} (hs : P s) {v v' : V}
    {t rest : List (Event Reply)} {r : Except ε α} (hrun : Runs x v (t ++ rest) r v')
    (hserves : mem.Serves s t) : I (mem.after s t) :=
  (h s hs v _ r v' hrun).1 t rest rfl hserves

/-- A stronger condition before, and weaker ones after. -/
theorem Guarantees.mono (h : Guarantees mem I P x Q) (hP : ∀ s, P' s → P s)
    (hQ : ∀ a s, Q a s → Q' a s) : Guarantees mem I P' x Q' := by
  intro s hs v t r v' hrun
  obtain ⟨hinvariant, hreturn⟩ := h s (hP s hs) v t r v' hrun
  exact ⟨hinvariant, fun a ha hserves => hQ a _ (hreturn a ha hserves)⟩

/-- A program without calls leaves the memory as it is. -/
theorem guarantees_of_nil (hx : ∀ v t r v', Runs x v t r v' → t = []) (hI : ∀ s, P s → I s)
    (hQ : ∀ v r v' a s, Runs x v [] r v' → r = .ok a → P s → Q a s) : Guarantees mem I P x Q := by
  intro s hs v t r v' hrun
  obtain rfl := hx v t r v' hrun
  refine ⟨fun t₁ t₂ ht _ => ?_, fun a ha _ => hQ v r v' a s hrun ha hs⟩
  rw [(List.append_eq_nil_iff.mp ht.symm).1]
  exact hI s hs

/-- Returning. -/
theorem guarantees_pure {a : α} (hI : ∀ s, P s → I s) (hQ : ∀ s, P s → Q a s) :
    Guarantees mem I P (pure a : Proc Call Reply V ε α) Q := by
  refine guarantees_of_nil (fun _ _ _ _ hrun => (runs_pure.mp hrun).1) hI ?_
  intro v r v' a' s hrun ha hs
  obtain ⟨-, hr, -⟩ := runs_pure.mp hrun
  cases hr.symm.trans ha
  exact hQ s hs

/-- Raising. -/
theorem guarantees_throw {exc : ε} (hI : ∀ s, P s → I s) :
    Guarantees mem I P (throw exc : Proc Call Reply V ε α) Q := by
  refine guarantees_of_nil (fun _ _ _ _ hrun => (runs_throw.mp hrun).1) hI ?_
  intro v r v' a s hrun ha _
  obtain ⟨-, hr, -⟩ := runs_throw.mp hrun
  cases hr.symm.trans ha

/-- A call: the invariant holds before and after it. -/
theorem guarantees_request {c : Call} {Q : Reply c → σ → Prop} (hI : ∀ s, P s → I s)
    (h : ∀ s a, P s → mem.allows s ⟨c, a⟩ → I (mem.answer s ⟨c, a⟩) ∧ Q a (mem.answer s ⟨c, a⟩)) :
    Guarantees mem I P (request c : Proc Call Reply V ε (Reply c)) Q := by
  intro s hs v t r v' hrun
  obtain ⟨a, rfl, rfl, -⟩ := runs_request.mp hrun
  refine ⟨fun t₁ t₂ ht hserves => ?_, fun b hb hserves => ?_⟩
  · rcases List.append_eq_cons_iff.mp ht.symm with ⟨rfl, -⟩ | ⟨t', rfl, ht'⟩
    · exact hI s hs
    · rw [(List.append_eq_nil_iff.mp ht'.symm).1] at hserves ⊢
      exact (h s a hs hserves.1).1
  · cases hb
    exact (h s a hs hserves.1).2

/-- What follows may rely on the postcondition of the first part. -/
theorem guarantees_bind {f : α → Proc Call Reply V ε β} {Q' : β → σ → Prop}
    (hx : Guarantees mem I P x Q) (hf : ∀ a, Guarantees mem I (Q a) (f a) Q') :
    Guarantees mem I P (x >>= f) Q' := by
  intro s hs v t r v' hrun
  rcases runs_bind.mp hrun with ⟨exc, rfl, hraise⟩ | ⟨a, t₁, t₂, v₁, rfl, hfirst, hsecond⟩
  · refine ⟨(hx s hs v t _ v' hraise).1, ?_⟩
    rintro b ⟨⟩
  obtain ⟨hinvariant, hreturn⟩ := hx s hs v t₁ _ v₁ hfirst
  refine ⟨fun l₁ l₂ hl hserves => ?_, fun b hb hserves => ?_⟩
  · rcases List.append_eq_append_iff.mp hl with ⟨l, rfl, rfl⟩ | ⟨l, rfl, rfl⟩
    · -- stopped in the second part
      rw [Memory.serves_append] at hserves
      have hmiddle := hreturn a rfl hserves.1
      rw [Memory.after_append]
      exact (hf a _ hmiddle v₁ _ r v' hsecond).1 l l₂ rfl hserves.2
    · exact hinvariant l₁ l rfl hserves
  · rw [Memory.serves_append] at hserves
    rw [Memory.after_append]
    exact (hf a _ (hreturn a rfl hserves.1) v₁ t₂ r v' hsecond).2 b hb hserves.2

/-- A call, and what follows it. -/
theorem guarantees_request_bind {c : Call} {f : Reply c → Proc Call Reply V ε β}
    {R : Reply c → σ → Prop} {Q' : β → σ → Prop} (hI : ∀ s, P s → I s)
    (h : ∀ s a, P s → mem.allows s ⟨c, a⟩ → I (mem.answer s ⟨c, a⟩) ∧ R a (mem.answer s ⟨c, a⟩))
    (hf : ∀ a, Guarantees mem I (R a) (f a) Q') : Guarantees mem I P (request c >>= f) Q' :=
  guarantees_bind (guarantees_request hI h) hf

/-- A case distinction. -/
theorem guarantees_ite {p : Prop} [Decidable p] {y : Proc Call Reply V ε α}
    (hx : p → Guarantees mem I P x Q) (hy : ¬ p → Guarantees mem I P y Q) :
    Guarantees mem I P (if p then x else y) Q := by
  split
  · exact hx ‹p›
  · exact hy ‹¬ p›

end Proc

end QubesAdminLinux
