import Mathlib.Data.List.Basic
import Mathlib.Tactic.Common

/-! # Regular expressions with groups

The expressions that a scripting language matches at the start of a text, restricted to repetitions of
a single character class.  A match takes a prefix and remembers what its groups have taken; the matches
are tried in the order of preference of a backtracking matcher, and the first one counts.

* **`Pattern`** — the expressions; **`Pattern.Matches`** says what an expression takes.
* **`Pattern.matchesOf`** — all ways to match the start of a list, the preferred one first;
  **`mem_matchesOf`** relates them to `Matches`.
* **`Pattern.match?`** — the groups of the preferred match. -/

namespace QubesAdminLinux

/-- Expressions over `α`. -/
inductive Pattern (α : Type)
  /-- Between `least` and `most` elements of a class, as many as possible. -/
  | run (p : α → Bool) (least : Nat) (most : Option Nat)
  /-- One expression after the other. -/
  | seq (first second : Pattern α)
  /-- One of two expressions, the first one if possible. -/
  | either (first second : Pattern α)
  /-- An expression whose match is remembered. -/
  | group (inner : Pattern α)

namespace Pattern

variable {α : Type}

/-- `p`: one element of a class. -/
def one (p : α → Bool) : Pattern α := .run p 1 (some 1)

/-- `p*`. -/
def star (p : α → Bool) : Pattern α := .run p 0 none

/-- `p+`. -/
def plus (p : α → Bool) : Pattern α := .run p 1 none

/-- `p{n}`. -/
def exactly (p : α → Bool) (n : Nat) : Pattern α := .run p n (some n)

/-- `taken` matches an expression, and its groups have taken `groups`. -/
inductive Matches : Pattern α → List α → List (List α) → Prop
  | run {p : α → Bool} {least : Nat} {most : Option Nat} {taken : List α}
      (hall : ∀ a ∈ taken, p a = true) (hleast : least ≤ taken.length)
      (hmost : ∀ n ∈ most, taken.length ≤ n) : Matches (.run p least most) taken []
  | seq {first second : Pattern α} {taken taken' : List α} {groups groups' : List (List α)}
      (h : Matches first taken groups) (h' : Matches second taken' groups') :
      Matches (.seq first second) (taken ++ taken') (groups ++ groups')
  | left {first second : Pattern α} {taken : List α} {groups : List (List α)}
      (h : Matches first taken groups) : Matches (.either first second) taken groups
  | right {first second : Pattern α} {taken : List α} {groups : List (List α)}
      (h : Matches second taken groups) : Matches (.either first second) taken groups
  | group {inner : Pattern α} {taken : List α} {groups : List (List α)}
      (h : Matches inner taken groups) : Matches (.group inner) taken (taken :: groups)

/-- A sequence is matched part by part. -/
theorem Matches.of_seq {first second : Pattern α} {taken : List α} {groups : List (List α)}
    (h : Matches (.seq first second) taken groups) :
    ∃ taken₁ taken₂ groups₁ groups₂, Matches first taken₁ groups₁ ∧
      Matches second taken₂ groups₂ ∧ taken = taken₁ ++ taken₂ ∧ groups = groups₁ ++ groups₂ := by
  cases h with
  | seq h h' => exact ⟨_, _, _, _, h, h', rfl, rfl⟩

/-- A run of a class has no groups. -/
theorem Matches.of_run {p : α → Bool} {least : Nat} {most : Option Nat} {taken : List α}
    {groups : List (List α)} (h : Matches (.run p least most) taken groups) :
    groups = [] ∧ (∀ a ∈ taken, p a = true) ∧ least ≤ taken.length ∧
      ∀ n ∈ most, taken.length ≤ n := by
  cases h with
  | run hall hleast hmost => exact ⟨rfl, hall, hleast, hmost⟩

/-- A group remembers what it has taken. -/
theorem Matches.of_group {inner : Pattern α} {taken : List α} {groups : List (List α)}
    (h : Matches (.group inner) taken groups) :
    ∃ groups', groups = taken :: groups' ∧ Matches inner taken groups' := by
  cases h with
  | group h => exact ⟨_, rfl, h⟩

/-- The ways to take at least `least` and at most `room` elements of a class, the longest first. -/
def runs (p : α → Bool) : Nat → Nat → List α → List (List α × List α)
  | least, room + 1, a :: l =>
      (if p a then (runs p (least - 1) room l).map fun q => (a :: q.1, q.2) else [])
        ++ if least = 0 then [([], a :: l)] else []
  | least, _, l => if least = 0 then [([], l)] else []

/-- The empty run. -/
theorem mem_emptyRun {least : Nat} {l taken rest : List α} :
    (taken, rest) ∈ (if least = 0 then [(([] : List α), l)] else [])
      ↔ taken = [] ∧ rest = l ∧ least = 0 := by
  by_cases hleast : least = 0
  · simp [hleast]
  · simp [hleast]

/-- Without room or without elements, the empty run is the only one. -/
theorem emptyRun_iff {p : α → Bool} {least room : Nat} {l taken rest : List α}
    (h : room = 0 ∨ l = []) :
    taken = [] ∧ rest = l ∧ least = 0 ↔ l = taken ++ rest ∧ (∀ a ∈ taken, p a = true) ∧
      least ≤ taken.length ∧ taken.length ≤ room := by
  constructor
  · rintro ⟨rfl, rfl, rfl⟩
    simp
  · rintro ⟨rfl, -, hleast, hroom⟩
    have htaken : taken = [] := by
      rcases h with rfl | h
      · exact List.eq_nil_of_length_eq_zero (Nat.le_zero.mp hroom)
      · exact (List.append_eq_nil_iff.mp h).1
    subst htaken
    exact ⟨rfl, rfl, Nat.le_zero.mp hleast⟩

/-- The runs are the prefixes of the class with an allowed length. -/
theorem mem_runs {p : α → Bool} {least room : Nat} {l taken rest : List α} :
    (taken, rest) ∈ runs p least room l ↔
      l = taken ++ rest ∧ (∀ a ∈ taken, p a = true) ∧ least ≤ taken.length ∧
        taken.length ≤ room := by
  induction room generalizing least l taken with
  | zero =>
      have hrun : runs p least 0 l = if least = 0 then [([], l)] else [] := by
        cases l <;> rfl
      rw [hrun, mem_emptyRun]
      exact emptyRun_iff (Or.inl rfl)
  | succ room ih =>
      cases l with
      | nil =>
          rw [runs, mem_emptyRun]
          · exact emptyRun_iff (Or.inr rfl)
          · simp
      | cons b l =>
          rw [runs, List.mem_append, mem_emptyRun]
          cases taken with
          | nil =>
              -- no longer run is empty
              rw [or_iff_right (by split <;> simp)]
              constructor
              · rintro ⟨-, rfl, rfl⟩
                simp
              · rintro ⟨hl, -, hleast, -⟩
                exact ⟨rfl, hl.symm, Nat.le_zero.mp hleast⟩
          | cons a taken =>
              rw [or_iff_left (by simp)]
              by_cases hb : p b = true
              · rw [if_pos hb, List.mem_map]
                constructor
                · rintro ⟨⟨taken', rest'⟩, hmem, hq⟩
                  simp only [Prod.mk.injEq, List.cons.injEq] at hq
                  obtain ⟨⟨rfl, rfl⟩, rfl⟩ := hq
                  obtain ⟨hl, hall, hleast, hroom⟩ := ih.mp hmem
                  refine ⟨by rw [hl, List.cons_append], List.forall_mem_cons.mpr ⟨hb, hall⟩, ?_, ?_⟩
                  · rw [List.length_cons]
                    omega
                  · rw [List.length_cons]
                    omega
                · rintro ⟨hl, hall, hleast, hroom⟩
                  rw [List.cons_append, List.cons.injEq] at hl
                  obtain ⟨rfl, rfl⟩ := hl
                  rw [List.forall_mem_cons] at hall
                  rw [List.length_cons] at hleast hroom
                  exact ⟨(taken, rest), ih.mpr ⟨rfl, hall.2, by omega, by omega⟩, rfl⟩
              · rw [if_neg hb]
                constructor
                · intro hmem
                  simp at hmem
                · rintro ⟨hl, hall, -⟩
                  rw [List.cons_append, List.cons.injEq] at hl
                  rw [hl.1] at hb
                  exact absurd (hall a List.mem_cons_self) hb

/-- All ways to match the start of a list: what the groups have taken, and the rest of the list. -/
def matchesOf : Pattern α → List α → List (List (List α) × List α)
  | .run p least most, l => (runs p least (most.getD l.length) l).map fun q => ([], q.2)
  | .seq first second, l =>
      (matchesOf first l).flatMap fun q =>
        (matchesOf second q.2).map fun q' => (q.1 ++ q'.1, q'.2)
  | .either first second, l => matchesOf first l ++ matchesOf second l
  | .group inner, l =>
      (matchesOf inner l).map fun q => (l.take (l.length - q.2.length) :: q.1, q.2)

/-- The matches that are tried are the matches. -/
theorem mem_matchesOf {pattern : Pattern α} {l rest : List α} {groups : List (List α)} :
    (groups, rest) ∈ matchesOf pattern l ↔
      ∃ taken, l = taken ++ rest ∧ Matches pattern taken groups := by
  induction pattern generalizing l rest groups with
  | run p least most =>
      rw [matchesOf, List.mem_map]
      constructor
      · rintro ⟨⟨taken, rest'⟩, hmem, hq⟩
        obtain ⟨rfl, rfl⟩ := Prod.mk.inj hq
        obtain ⟨hl, hall, hleast, hroom⟩ := mem_runs.mp hmem
        refine ⟨taken, hl, .run hall hleast fun n hn => ?_⟩
        rw [Option.mem_def] at hn
        simpa [hn] using hroom
      · rintro ⟨taken, rfl, hmatch⟩
        cases hmatch with
        | run hall hleast hmost =>
            refine ⟨(taken, rest), mem_runs.mpr ⟨rfl, hall, hleast, ?_⟩, rfl⟩
            cases most with
            | none => simp
            | some n => simpa using hmost n rfl
  | seq first second ih ih' =>
      rw [matchesOf, List.mem_flatMap]
      constructor
      · rintro ⟨⟨groups₁, rest₁⟩, hfirst, hmem⟩
        obtain ⟨⟨groups₂, rest₂⟩, hsecond, hq⟩ := List.mem_map.mp hmem
        obtain ⟨rfl, rfl⟩ := Prod.mk.inj hq
        obtain ⟨taken, rfl, hmatch⟩ := ih.mp hfirst
        obtain ⟨taken', hrest, hmatch'⟩ := ih'.mp hsecond
        refine ⟨taken ++ taken', ?_, .seq hmatch hmatch'⟩
        rw [List.append_assoc, ← hrest]
      · rintro ⟨taken, rfl, hmatch⟩
        cases hmatch with
        | seq hmatch hmatch' =>
            rename_i taken₁ taken₂ groups₁ groups₂
            refine ⟨(groups₁, taken₂ ++ rest), ih.mpr ⟨taken₁, ?_, hmatch⟩, ?_⟩
            · rw [List.append_assoc]
            · exact List.mem_map.mpr ⟨(groups₂, rest), ih'.mpr ⟨taken₂, rfl, hmatch'⟩, rfl⟩
  | either first second ih ih' =>
      rw [matchesOf, List.mem_append, ih, ih']
      constructor
      · rintro (⟨taken, hl, hmatch⟩ | ⟨taken, hl, hmatch⟩)
        · exact ⟨taken, hl, .left hmatch⟩
        · exact ⟨taken, hl, .right hmatch⟩
      · rintro ⟨taken, hl, hmatch⟩
        cases hmatch with
        | left hmatch => exact Or.inl ⟨taken, hl, hmatch⟩
        | right hmatch => exact Or.inr ⟨taken, hl, hmatch⟩
  | group inner ih =>
      -- what the group has taken is what is missing in the rest
      have htake : ∀ taken rest : List α,
          (taken ++ rest).take ((taken ++ rest).length - rest.length) = taken := by
        intro taken rest
        rw [List.length_append, Nat.add_sub_cancel, List.take_left]
      rw [matchesOf, List.mem_map]
      constructor
      · rintro ⟨⟨groups₁, rest₁⟩, hmem, hq⟩
        obtain ⟨rfl, rfl⟩ := Prod.mk.inj hq
        obtain ⟨taken, rfl, hmatch⟩ := ih.mp hmem
        refine ⟨taken, rfl, ?_⟩
        rw [htake]
        exact .group hmatch
      · rintro ⟨taken, rfl, hmatch⟩
        cases hmatch with
        | group hmatch =>
            rename_i groups₁
            refine ⟨(groups₁, rest), ih.mpr ⟨taken, rfl, hmatch⟩, ?_⟩
            rw [htake]

/-- `re.match`: the groups of the preferred match at the start of a list. -/
def match? (pattern : Pattern α) (l : List α) : Option (List (List α)) :=
  (matchesOf pattern l).head?.map Prod.fst

/-- What is matched is a prefix that the expression describes. -/
theorem matches_of_match? {pattern : Pattern α} {l : List α} {groups : List (List α)}
    (h : match? pattern l = some groups) :
    ∃ taken rest, l = taken ++ rest ∧ Matches pattern taken groups := by
  rw [match?, Option.map_eq_some_iff] at h
  obtain ⟨⟨groups', rest⟩, hhead, rfl⟩ := h
  obtain ⟨taken, hl, hmatch⟩ := mem_matchesOf.mp (List.mem_of_mem_head? hhead)
  exact ⟨taken, rest, hl, hmatch⟩

end Pattern

end QubesAdminLinux
