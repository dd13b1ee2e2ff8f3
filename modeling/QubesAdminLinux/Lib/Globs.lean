import Mathlib.Data.List.Infix
import QubesAdminLinux.Lib.Text

/-! # Expansions and patterns of a shell

What `${text%%c*}`, `${text#*c}` and `${text//c/d}` give for a text with one known `c`, and when a text
matches a pattern.

* **`upTo_append`, `removeThrough_append`** — the two sides of the first `c`.
* **`globMatches_star_one`** — a `*` and then a character.
* **`exists_mem_of_globMatches`** — the characters that a pattern asks for. -/

namespace QubesAdminLinux

variable {c d : Char} {text : List Char}

/-- The characters before the first `c` are passed over. -/
theorem forall_ne_of_notMem (h : c ∉ text) : ∀ x ∈ text, decide (x ≠ c) = true := by
  intro x hx
  rw [decide_eq_true_iff]
  rintro rfl
  exact h hx

/-- The text before the first such character. -/
theorem upTo_append (h : c ∉ text) (after : List Char) : upTo c (text ++ c :: after) = text := by
  rw [upTo, List.takeWhile_append_of_pos (forall_ne_of_notMem h),
    List.takeWhile_cons_of_neg (by simp), List.append_nil]

/-- The text after it. -/
theorem removeThrough_append (h : c ∉ text) (after : List Char) :
    removeThrough c (text ++ c :: after) = after := by
  rw [removeThrough, if_pos (by simp), List.dropWhile_append_of_pos (forall_ne_of_notMem h),
    List.dropWhile_cons_of_neg (by simp), List.tail_cons]

/-- Nothing is replaced. -/
theorem replaceChar_of_notMem (h : c ∉ text) : replaceChar c d text = text := by
  rw [replaceChar, List.map_congr_left (g := id), List.map_id]
  intro x hx
  rw [if_neg (of_decide_eq_true (forall_ne_of_notMem h x hx)), id]

/-- A single `c` is replaced. -/
theorem replaceChar_append (h : c ∉ text) {after : List Char} (hafter : c ∉ after) :
    replaceChar c d (text ++ c :: after) = text ++ d :: after := by
  have happend : replaceChar c d (text ++ c :: after)
      = replaceChar c d text ++ d :: replaceChar c d after := by
    simp [replaceChar]
  rw [happend, replaceChar_of_notMem h, replaceChar_of_notMem hafter]

/-- `*` matches everything. -/
theorem globMatches_star (text : List Char) : globMatches [.star] text = true := by
  rw [globMatches, List.any_eq_true]
  exact ⟨[], by simp, rfl⟩

/-- `*` and then a character of a kind. -/
theorem globMatches_star_one {p : Char → Bool} {rest : List Glob} :
    globMatches (.star :: .one p :: rest) text = true ↔
      ∃ before x after, text = before ++ x :: after ∧ p x = true ∧ globMatches rest after = true := by
  rw [globMatches, List.any_eq_true]
  constructor
  · rintro ⟨suffix, hsuffix, hmatch⟩
    obtain ⟨before, rfl⟩ := (List.mem_tails _ _).mp hsuffix
    cases suffix with
    | nil => cases hmatch
    | cons x after =>
        rw [globMatches, Bool.and_eq_true] at hmatch
        exact ⟨before, x, after, rfl, hmatch.1, hmatch.2⟩
  · rintro ⟨before, x, after, rfl, hx, hmatch⟩
    refine ⟨x :: after, (List.mem_tails _ _).mpr (List.suffix_append before _), ?_⟩
    rw [globMatches, Bool.and_eq_true]
    exact ⟨hx, hmatch⟩

/-- A text that matches has the characters of the pattern. -/
theorem exists_mem_of_globMatches {p : Char → Bool} {first rest : List Glob}
    (h : globMatches (first ++ .one p :: rest) text = true) : ∃ x ∈ text, p x = true := by
  induction first generalizing text with
  | nil =>
      cases text with
      | nil => cases h
      | cons x text =>
          rw [List.nil_append, globMatches, Bool.and_eq_true] at h
          exact ⟨x, List.mem_cons_self, h.1⟩
  | cons part first ih =>
      cases part with
      | star =>
          rw [List.cons_append, globMatches, List.any_eq_true] at h
          obtain ⟨suffix, hsuffix, hmatch⟩ := h
          obtain ⟨x, hx, hp⟩ := ih hmatch
          exact ⟨x, ((List.mem_tails _ _).mp hsuffix).subset hx, hp⟩
      | one q =>
          cases text with
          | nil => cases h
          | cons y text =>
              rw [List.cons_append, globMatches, Bool.and_eq_true] at h
              obtain ⟨x, hx, hp⟩ := ih h.2
              exact ⟨x, List.mem_cons_of_mem y hx, hp⟩

end QubesAdminLinux
