import Mathlib.Data.List.TakeWhile

/-! # Files made of sections

A file whose lines are grouped by headers: a section is a header with the lines up to the next one, and
the lines before the first header belong to no section.

* **`sections`** — the sections of a file.
* **`sections_append`, `sections_map`** — files that are put together or rewritten line by line.
* **`dropSections`** — the lines outside of some sections; `sections_dropSections` gives what is left. -/

namespace QubesAdminLinux

/-- A section: its header and the lines that follow it. -/
structure Section (α : Type) where
  /-- The header. -/
  header : α
  /-- The lines after the header. -/
  body : List α
  deriving DecidableEq, Repr

namespace Section

variable {α β : Type}

/-- Rewrite the lines of a section. -/
def map (f : α → β) (sec : Section α) : Section β := ⟨f sec.header, sec.body.map f⟩

/-- The header is mapped. -/
@[simp] theorem header_map (f : α → β) (sec : Section α) : (sec.map f).header = f sec.header := rfl

/-- The body is mapped. -/
@[simp] theorem body_map (f : α → β) (sec : Section α) : (sec.map f).body = sec.body.map f := rfl

end Section

variable {α : Type} {isHeader : α → Bool}

/-- The lines before the first header. -/
def beforeHeader (isHeader : α → Bool) (lines : List α) : List α := lines.takeWhile fun l => !isHeader l

/-- The sections of a file. -/
def sections (isHeader : α → Bool) : List α → List (Section α)
  | [] => []
  | line :: rest =>
      if isHeader line then ⟨line, beforeHeader isHeader rest⟩ :: sections isHeader rest
      else sections isHeader rest

/-- There are no lines. -/
@[simp] theorem beforeHeader_nil : beforeHeader isHeader [] = [] := rfl

/-- A header comes first. -/
theorem beforeHeader_cons_header {line : α} (h : isHeader line = true) (rest : List α) :
    beforeHeader isHeader (line :: rest) = [] := by simp [beforeHeader, h]

/-- Another line comes first. -/
theorem beforeHeader_cons {line : α} (h : isHeader line = false) (rest : List α) :
    beforeHeader isHeader (line :: rest) = line :: beforeHeader isHeader rest := by
  simp [beforeHeader, h]

/-- A header begins a section. -/
theorem sections_cons_header {line : α} (h : isHeader line = true) (rest : List α) :
    sections isHeader (line :: rest) = ⟨line, beforeHeader isHeader rest⟩ :: sections isHeader rest :=
  if_pos h

/-- Another line belongs to no new section. -/
theorem sections_cons {line : α} (h : isHeader line = false) (rest : List α) :
    sections isHeader (line :: rest) = sections isHeader rest := if_neg (by simp [h])

/-- No line before the first header is one. -/
theorem not_header_of_mem_beforeHeader {lines : List α} {line : α}
    (h : line ∈ beforeHeader isHeader lines) : isHeader line = false := by
  simpa using List.mem_takeWhile_imp h

/-- Lines without a header have no sections. -/
theorem sections_eq_nil {lines : List α} (h : ∀ line ∈ lines, isHeader line = false) :
    sections isHeader lines = [] := by
  induction lines with
  | nil => rfl
  | cons line rest ih =>
      rw [sections_cons (h line List.mem_cons_self)]
      exact ih fun l hl => h l (List.mem_cons_of_mem line hl)

/-- Without headers, all lines come before the first one. -/
theorem beforeHeader_eq_self {lines : List α} (h : ∀ line ∈ lines, isHeader line = false) :
    beforeHeader isHeader lines = lines := by
  rw [beforeHeader, List.takeWhile_eq_self_iff]
  simpa using h

/-- What begins with a header adds nothing to the lines before it. -/
theorem beforeHeader_append {lines more : List α} (h : beforeHeader isHeader more = []) :
    beforeHeader isHeader (lines ++ more) = beforeHeader isHeader lines := by
  induction lines with
  | nil => exact h
  | cons line rest ih =>
      rw [List.cons_append]
      cases hline : isHeader line with
      | true => rw [beforeHeader_cons_header hline, beforeHeader_cons_header hline]
      | false => rw [beforeHeader_cons hline, beforeHeader_cons hline, ih]

/-- The sections of a file to which another one is appended, which begins with a header. -/
theorem sections_append {lines more : List α} (h : beforeHeader isHeader more = []) :
    sections isHeader (lines ++ more) = sections isHeader lines ++ sections isHeader more := by
  induction lines with
  | nil => rfl
  | cons line rest ih =>
      rw [List.cons_append]
      cases hline : isHeader line with
      | true =>
          rw [sections_cons_header hline, sections_cons_header hline, beforeHeader_append h, ih]
          rfl
      | false => rw [sections_cons hline, sections_cons hline, ih]

/-- Lines are mapped before or after they are cut. -/
theorem beforeHeader_map {f : α → α} (hf : ∀ line, isHeader (f line) = isHeader line)
    (lines : List α) :
    beforeHeader isHeader (lines.map f) = (beforeHeader isHeader lines).map f := by
  rw [beforeHeader, List.takeWhile_map]
  simp only [Function.comp_def, hf]
  rfl

/-- The sections of a file that is rewritten line by line, headers to headers. -/
theorem sections_map {f : α → α} (hf : ∀ line, isHeader (f line) = isHeader line) (lines : List α) :
    sections isHeader (lines.map f) = (sections isHeader lines).map (Section.map f) := by
  induction lines with
  | nil => rfl
  | cons line rest ih =>
      rw [List.map_cons]
      cases hline : isHeader line with
      | true =>
          rw [sections_cons_header ((hf line).trans hline), sections_cons_header hline, ih,
            beforeHeader_map hf]
          rfl
      | false => rw [sections_cons ((hf line).trans hline), sections_cons hline, ih]

/-- A section is headed by a header of the file. -/
theorem header_mem {lines : List α} {sec : Section α} (h : sec ∈ sections isHeader lines) :
    sec.header ∈ lines ∧ isHeader sec.header = true := by
  induction lines with
  | nil => cases h
  | cons line rest ih =>
      cases hline : isHeader line with
      | true =>
          rw [sections_cons_header hline, List.mem_cons] at h
          rcases h with rfl | h
          · exact ⟨List.mem_cons_self, hline⟩
          · exact (ih h).imp_left (List.mem_cons_of_mem line)
      | false =>
          rw [sections_cons hline] at h
          exact (ih h).imp_left (List.mem_cons_of_mem line)

/-- A header in the middle of a file heads a section. -/
theorem section_mem {before after : List α} {line : α} (h : isHeader line = true) :
    ⟨line, beforeHeader isHeader after⟩ ∈ sections isHeader (before ++ line :: after) := by
  rw [sections_append (beforeHeader_cons_header h after), sections_cons_header h]
  exact List.mem_append_right _ List.mem_cons_self

/-- A header of the file heads a section. -/
theorem exists_section {lines : List α} {line : α} (hmem : line ∈ lines) (h : isHeader line = true) :
    ∃ sec ∈ sections isHeader lines, sec.header = line := by
  obtain ⟨before, after, rfl⟩ := List.append_of_mem hmem
  exact ⟨_, section_mem h, rfl⟩

/-! ## Dropping sections -/

/-- The lines outside of the sections with some headers; the flag tells whether the file begins within
such a section. -/
def dropSections (isHeader named : α → Bool) : Bool → List α → List α
  | _, [] => []
  | dropping, line :: rest =>
      if (if isHeader line then named line else dropping) then dropSections isHeader named true rest
      else line :: dropSections isHeader named false rest

variable {named : α → Bool}

/-- At a header it is decided whether the section is dropped. -/
theorem dropSections_cons_header {line : α} (h : isHeader line = true) (dropping : Bool)
    (rest : List α) : dropSections isHeader named dropping (line :: rest) =
      if named line then dropSections isHeader named true rest
      else line :: dropSections isHeader named false rest := by
  rw [dropSections, if_pos h]

/-- A line of a body goes with its section. -/
theorem dropSections_cons {line : α} (h : isHeader line = false) (dropping : Bool) (rest : List α) :
    dropSections isHeader named dropping (line :: rest) =
      if dropping then dropSections isHeader named true rest
      else line :: dropSections isHeader named false rest := by
  simp only [dropSections, h, Bool.false_eq_true, if_false]

/-- Lines are only dropped. -/
theorem dropSections_sublist (dropping : Bool) (lines : List α) :
    (dropSections isHeader named dropping lines).Sublist lines := by
  induction lines generalizing dropping with
  | nil => exact List.Sublist.refl []
  | cons line rest ih =>
      simp only [dropSections]
      generalize (if isHeader line then named line else dropping) = dropping'
      cases dropping' with
      | true => exact (ih true).cons line
      | false => exact (ih false).cons_cons line

/-- Within a section that is dropped nothing is left before the next header, and outside nothing is
lost. -/
theorem beforeHeader_dropSections (dropping : Bool) (lines : List α) :
    beforeHeader isHeader (dropSections isHeader named dropping lines) =
      if dropping then [] else beforeHeader isHeader lines := by
  induction lines generalizing dropping with
  | nil => simp [dropSections]
  | cons line rest ih =>
      cases hline : isHeader line with
      | true =>
          rw [dropSections_cons_header hline, beforeHeader_cons_header hline, ite_self]
          cases named line with
          | true => exact ih true
          | false => exact beforeHeader_cons_header hline _
      | false =>
          rw [dropSections_cons hline]
          cases dropping with
          | true => exact ih true
          | false =>
              have hkept := ih false
              rw [if_neg Bool.false_ne_true] at hkept ⊢
              rw [if_neg Bool.false_ne_true, beforeHeader_cons hline, beforeHeader_cons hline, hkept]

/-- The sections with other headers are left. -/
theorem sections_dropSections (dropping : Bool) (lines : List α) :
    sections isHeader (dropSections isHeader named dropping lines) =
      (sections isHeader lines).filter fun sec => !named sec.header := by
  induction lines generalizing dropping with
  | nil => rfl
  | cons line rest ih =>
      cases hline : isHeader line with
      | true =>
          rw [dropSections_cons_header hline, sections_cons_header hline]
          cases hnamed : named line with
          | true =>
              rw [if_pos rfl, ih true, List.filter_cons_of_neg (by simp [hnamed])]
          | false =>
              have hbody := @beforeHeader_dropSections α isHeader named false rest
              rw [if_neg Bool.false_ne_true] at hbody ⊢
              rw [sections_cons_header hline, ih false, hbody,
                List.filter_cons_of_pos (by simp [hnamed])]
      | false =>
          rw [dropSections_cons hline, sections_cons hline]
          cases dropping with
          | true => exact ih true
          | false =>
              rw [if_neg Bool.false_ne_true, sections_cons hline]
              exact ih false

end QubesAdminLinux
