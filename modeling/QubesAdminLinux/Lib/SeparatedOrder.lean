import Mathlib.Data.List.Lex
import Mathlib.Order.Lattice
import Mathlib.Tactic.Tauto

/-! # The order of separated texts

The lexicographic order of lists that consist of parts, each after a separator, and a tail.  If the
separator is smaller than all elements of the parts and larger than the start of the tail, then the
order of such lists is that of their parts, compared one by one, and then that of their tails.

* **`joinParts`** — the parts, each after its separator, and the tail.
* **`append_lt_append_iff`** — one part and what comes behind it.
* **`joinParts_lt_iff`** — all of them. -/

namespace QubesAdminLinux

variable {α : Type*} [LinearOrder α] {sep : α} {a b : List (List α)} {c d r s : List α}

/-- Comparing a part with what comes behind it, where each part is larger than what comes behind the
other one. -/
theorem append_lt_append_iff (hc : ∀ x ∈ c, ∀ y ∈ s.head?, y < x)
    (hd : ∀ x ∈ d, ∀ y ∈ r.head?, y < x) : c ++ r < d ++ s ↔ c < d ∨ (c = d ∧ r < s) := by
  induction c generalizing d with
  | nil =>
      cases d with
      | nil => simp
      | cons y ys =>
          have hlt : r < y :: (ys ++ s) := by
            cases r with
            | nil => exact List.nil_lt_cons _ _
            | cons x xs =>
                rw [List.cons_lt_cons_iff]
                exact Or.inl (hd y List.mem_cons_self x rfl)
          simpa using hlt
  | cons x xs ih =>
      rw [List.forall_mem_cons] at hc
      cases d with
      | nil =>
          have hnot : ¬ (x :: (xs ++ r) < s) := by
            cases s with
            | nil => exact List.not_lt_nil _
            | cons y ys =>
                have hlt : y < x := hc.1 y rfl
                rw [List.cons_lt_cons_iff]
                rintro (hlt' | ⟨rfl, -⟩)
                · exact lt_asymm hlt hlt'
                · exact lt_irrefl _ hlt
          simpa using hnot
      | cons y ys =>
          rw [List.forall_mem_cons] at hd
          rw [List.cons_append, List.cons_append, List.cons_lt_cons_iff, ih hc.2 hd.2,
            List.cons_lt_cons_iff, List.cons.injEq]
          tauto

/-- Parts, each after a separator, and a tail. -/
def joinParts (sep : α) : List (List α) → List α → List α
  | [], r => r
  | c :: parts, r => sep :: (c ++ joinParts sep parts r)

/-- What starts behind a part is the separator or the tail. -/
theorem head?_joinParts (hr : ∀ y ∈ r.head?, y < sep) : ∀ y ∈ (joinParts sep a r).head?, y ≤ sep := by
  intro y hy
  cases a with
  | nil => exact (hr y hy).le
  | cons c parts =>
      rw [joinParts, List.head?_cons, Option.mem_some_iff] at hy
      exact hy.ge

/-- Separated lists are compared part by part, and then by their tails. -/
theorem joinParts_lt_iff (ha : ∀ c ∈ a, ∀ x ∈ c, sep < x) (hb : ∀ c ∈ b, ∀ x ∈ c, sep < x)
    (hr : ∀ y ∈ r.head?, y < sep) (hs : ∀ y ∈ s.head?, y < sep) :
    joinParts sep a r < joinParts sep b s ↔ a < b ∨ (a = b ∧ r < s) := by
  induction a generalizing b with
  | nil =>
      cases b with
      | nil => simp [joinParts]
      | cons d parts =>
          have hlt : r < joinParts sep (d :: parts) s := by
            rw [joinParts]
            cases r with
            | nil => exact List.nil_lt_cons _ _
            | cons x xs =>
                rw [List.cons_lt_cons_iff]
                exact Or.inl (hr x rfl)
          simpa [joinParts] using hlt
  | cons c parts ih =>
      rw [List.forall_mem_cons] at ha
      cases b with
      | nil =>
          have hnot : ¬ (joinParts sep (c :: parts) r < s) := by
            rw [joinParts]
            cases s with
            | nil => exact List.not_lt_nil _
            | cons y ys =>
                have hlt : y < sep := hs y rfl
                rw [List.cons_lt_cons_iff]
                rintro (hlt' | ⟨rfl, -⟩)
                · exact lt_asymm hlt hlt'
                · exact lt_irrefl _ hlt
          simpa [joinParts] using hnot
      | cons d parts' =>
          rw [List.forall_mem_cons] at hb
          have hparts := append_lt_append_iff (c := c) (d := d)
            (r := joinParts sep parts r) (s := joinParts sep parts' s)
            (fun x hx y hy => (head?_joinParts hs y hy).trans_lt (ha.1 x hx))
            (fun x hx y hy => (head?_joinParts hr y hy).trans_lt (hb.1 x hx))
          rw [joinParts, joinParts, List.cons_lt_cons_iff, hparts, ih ha.2 hb.2,
            List.cons_lt_cons_iff, List.cons.injEq]
          simp only [lt_self_iff_false, false_or, true_and]
          tauto

omit [LinearOrder α] in
/-- A list between separators is its first part, and then the others. -/
theorem intercalate_append (sep : α) (c : List α) (parts : List (List α)) (r : List α) :
    [sep].intercalate (c :: parts) ++ r = c ++ joinParts sep parts r := by
  induction parts generalizing c with
  | nil => simp [joinParts]
  | cons d parts ih =>
      have h := ih d
      rw [joinParts, ← h]
      simp [List.intercalate]

end QubesAdminLinux
