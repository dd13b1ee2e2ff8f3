import Mathlib.Data.List.Induction
import QubesAdminLinux.Lib.StateExcept

/-! # Sequences of callbacks

A library calls the methods of an object in some order.  Each call may change the object and may
raise; what it has done to the object before it raises stays done.

* **`EachAfter`** — each element of a list is related to all that come before it.
* **`StateExcept.after`** — the object after a sequence of calls, whatever they have raised;
  `after_invariant` is the rule for what holds after every sequence.
* **`StateExcept.Quiet`** — no call of a sequence raises; `quiet_iff_eachAfter` reduces it to a
  condition on each call, given those before. -/

namespace QubesAdminLinux

variable {γ : Type}

/-- Each element is related to the list of all elements before it, the first one to `before`. -/
def EachAfterFrom (P : List γ → γ → Prop) (before : List γ) : List γ → Prop
  | [] => True
  | c :: rest => P before c ∧ EachAfterFrom P (before ++ [c]) rest

/-- Each element of a list is related to the list of all elements before it. -/
def EachAfter (P : List γ → γ → Prop) (l : List γ) : Prop := EachAfterFrom P [] l

/-- Collecting from a list with one more element. -/
theorem filterMap_concat {α : Type} (f : γ → Option α) (l : List γ) (c : γ) :
    (l ++ [c]).filterMap f = l.filterMap f ++ (f c).toList := by
  rw [List.filterMap_append, List.append_cancel_left_eq, List.filterMap_cons]
  cases f c with
  | none => rfl
  | some a => rfl

section EachAfter

variable {P : List γ → γ → Prop} {before l : List γ} {c : γ}

instance decidableEachAfterFrom [∀ before c, Decidable (P before c)] (before l : List γ) :
    Decidable (EachAfterFrom P before l) :=
  match l with
  | [] => inferInstanceAs (Decidable True)
  | c :: rest => @instDecidableAnd _ _ _ (decidableEachAfterFrom (before ++ [c]) rest)

instance [∀ before c, Decidable (P before c)] (l : List γ) : Decidable (EachAfter P l) :=
  decidableEachAfterFrom [] l

/-- Two parts of a sequence. -/
theorem eachAfterFrom_append {l' : List γ} :
    EachAfterFrom P before (l ++ l') ↔ EachAfterFrom P before l ∧ EachAfterFrom P (before ++ l) l' := by
  induction l generalizing before with
  | nil => simp [EachAfterFrom]
  | cons hd tl ih =>
      rw [List.cons_append, EachAfterFrom, EachAfterFrom, ih, and_assoc, List.append_assoc,
        List.singleton_append]

/-- The empty sequence. -/
@[simp] theorem eachAfter_nil : EachAfter P [] := trivial

/-- The last element is related to the rest of the list. -/
@[simp] theorem eachAfter_concat : EachAfter P (l ++ [c]) ↔ EachAfter P l ∧ P l c := by
  rw [EachAfter, eachAfterFrom_append, List.nil_append, EachAfterFrom, EachAfterFrom, and_true,
    EachAfter]

/-- A condition that does not depend on the elements before. -/
theorem eachAfter_const {Q : γ → Prop} : EachAfter (fun _ c => Q c) l ↔ ∀ c ∈ l, Q c := by
  induction l using List.reverseRecOn with
  | nil => simp
  | append_singleton l c ih => rw [eachAfter_concat, ih, List.forall_mem_append, List.forall_mem_singleton]

/-- An element in the middle of a list is related to the part before it. -/
theorem eachAfter_append_cons {rest : List γ} (h : EachAfter P (l ++ c :: rest)) :
    EachAfter P l ∧ P l c := by
  rw [EachAfter, eachAfterFrom_append, List.nil_append, EachAfterFrom] at h
  exact ⟨h.1, h.2.1⟩

end EachAfter

namespace StateExcept

variable {σ ε : Type} {handle : γ → StateExcept σ ε Unit} {s : σ} {calls : List γ} {call : γ}

/-- The state after a sequence of calls, whatever they have raised. -/
def after (handle : γ → StateExcept σ ε Unit) (s : σ) (calls : List γ) : σ :=
  calls.foldl (fun s call => (exec (handle call) s).2) s

/-- No call changes nothing. -/
@[simp] theorem after_nil : after handle s [] = s := rfl

/-- One more call. -/
@[simp] theorem after_concat :
    after handle s (calls ++ [call]) = (exec (handle call) (after handle s calls)).2 := by
  rw [after, List.foldl_append, List.foldl_cons, List.foldl_nil, after]

/-- Two sequences of calls, one after the other. -/
theorem after_append (calls rest : List γ) :
    after handle s (calls ++ rest) = after handle (after handle s calls) rest := by
  rw [after, List.foldl_append, after, after]

/-- What holds at first and is kept by every call holds after every sequence of calls. -/
theorem after_invariant {P : List γ → γ → Prop} {I : List γ → σ → Prop} (hinit : I [] s)
    (hstep : ∀ calls call s, I calls s → P calls call →
      I (calls ++ [call]) (exec (handle call) s).2) :
    ∀ calls, EachAfter P calls → I calls (after handle s calls) := by
  intro calls
  induction calls using List.reverseRecOn with
  | nil => exact fun _ => hinit
  | append_singleton calls call ih =>
      intro h
      rw [eachAfter_concat] at h
      rw [after_concat]
      exact hstep calls call _ (ih h.1) h.2

/-- No call of a sequence raises. -/
def Quiet (handle : γ → StateExcept σ ε Unit) (s : σ) (calls : List γ) : Prop :=
  EachAfter (fun before call => (exec (handle call) (after handle s before)).1 = .ok ()) calls

/-- No call raises exactly if each call meets a condition that decides, in the states that can be
reached, whether it raises. -/
theorem quiet_iff_eachAfter {P safe : List γ → γ → Prop} {I : List γ → σ → Prop} (hinit : I [] s)
    (hstep : ∀ calls call s, I calls s → P calls call →
      I (calls ++ [call]) (exec (handle call) s).2
        ∧ ((exec (handle call) s).1 = .ok () ↔ safe calls call))
    (h : EachAfter P calls) : Quiet handle s calls ↔ EachAfter safe calls := by
  have hinv := after_invariant hinit fun calls call s hI hP => (hstep calls call s hI hP).1
  induction calls using List.reverseRecOn with
  | nil => exact Iff.rfl
  | append_singleton calls call ih =>
      rw [eachAfter_concat] at h
      have hI := hinv calls h.1
      rw [Quiet, eachAfter_concat, eachAfter_concat, ← (hstep calls call _ hI h.2).2]
      exact and_congr_left' (ih h.1)

/-- The same for a condition on each call alone, in all states with a property that is kept. -/
theorem quiet_iff_forall {safe : γ → Prop} {I : σ → Prop} (hinit : I s)
    (hstep : ∀ call s, I s →
      I (exec (handle call) s).2 ∧ ((exec (handle call) s).1 = .ok () ↔ safe call)) :
    Quiet handle s calls ↔ ∀ call ∈ calls, safe call := by
  have htrue : EachAfter (fun _ _ => True) calls := eachAfter_const.mpr fun _ _ => trivial
  rw [← eachAfter_const]
  exact quiet_iff_eachAfter (I := fun _ s => I s) hinit (fun _ call s hI _ => hstep call s hI) htrue

end StateExcept

end QubesAdminLinux
