import Mathlib.Data.List.DropRight
import QubesAdminLinux.Lib.Text

/-! # The lines of a text file

How a scripting language reads a file in text mode: every line end becomes a newline, and a line keeps
its newline.

* **`universalNewlines`** — the text without other line ends.
* **`textLines`** — its lines; `textLines_append` and `isLine_of_textLines_eq` relate them to the text.
* **`fileLines`** — the lines of a file; `fileLines_flatten` says what is read back after some of them
  have been replaced.
* **`rstrip`** — a line without white space at its end. -/

namespace QubesAdminLinux

/-- `line.rstrip()`. -/
def rstrip (line : List Char) : List Char := line.rdropWhile isSpace

/-! ## Lines -/

/-- The text with a newline for every carriage return, with or without a newline behind it. -/
def universalNewlines : List Char → List Char
  | [] => []
  | '\r' :: '\n' :: rest => '\n' :: universalNewlines rest
  | c :: rest => (if c = '\r' then '\n' else c) :: universalNewlines rest

/-- Put a character in front of the first line, opening one if there is none. -/
def consFirst (c : Char) : List (List Char) → List (List Char)
  | [] => [[c]]
  | line :: rest => (c :: line) :: rest

/-- The lines of a text, each with its newline, the last one possibly without. -/
def textLines : List Char → List (List Char)
  | [] => []
  | c :: rest => if c = '\n' then ['\n'] :: textLines rest else consFirst c (textLines rest)

/-- A line with its newline. -/
def IsLine (line : List Char) : Prop := ∃ body, '\n' ∉ body ∧ line = body ++ ['\n']

/-- The empty text has no lines. -/
@[simp] theorem textLines_nil : textLines [] = [] := rfl

/-- A character is added to the first line. -/
@[simp] theorem flatten_consFirst (c : Char) (lines : List (List Char)) :
    (consFirst c lines).flatten = c :: lines.flatten := by
  cases lines with
  | nil => rfl
  | cons line rest => simp [consFirst]

/-- A text is its lines one after the other. -/
theorem flatten_textLines (text : List Char) : (textLines text).flatten = text := by
  induction text with
  | nil => rfl
  | cons c rest ih =>
      rw [textLines]
      split
      · rename_i hc
        rw [List.flatten_cons, ih, hc]
        rfl
      · rw [flatten_consFirst, ih]

/-- A line in front of a text. -/
theorem textLines_append {line : List Char} (h : IsLine line) (rest : List Char) :
    textLines (line ++ rest) = line :: textLines rest := by
  obtain ⟨body, hbody, rfl⟩ := h
  induction body with
  | nil => exact if_pos rfl
  | cons c body ih =>
      rw [List.mem_cons, not_or] at hbody
      have hrest := ih hbody.2
      rw [List.cons_append, List.cons_append, textLines, if_neg (Ne.symm hbody.1), hrest]
      rfl

/-- Lines in front of a text. -/
theorem textLines_flatten_append {lines : List (List Char)} (h : ∀ line ∈ lines, IsLine line)
    (rest : List Char) : textLines (lines.flatten ++ rest) = lines ++ textLines rest := by
  induction lines with
  | nil => rfl
  | cons line lines ih =>
      rw [List.forall_mem_cons] at h
      rw [List.flatten_cons, List.append_assoc, textLines_append h.1, ih h.2, List.cons_append]

/-- A line that is followed by another one has its newline. -/
theorem isLine_of_textLines_eq {text : List Char} {before after : List (List Char)}
    {line next : List Char} (h : textLines text = before ++ line :: next :: after) : IsLine line := by
  induction text generalizing before line with
  | nil =>
      rw [textLines_nil] at h
      simp at h
  | cons c rest ih =>
      rw [textLines] at h
      by_cases hc : c = '\n'
      · rw [if_pos hc] at h
        cases before with
        | nil =>
            rw [List.nil_append, List.cons.injEq] at h
            exact ⟨[], List.not_mem_nil, h.1.symm⟩
        | cons first before =>
            rw [List.cons_append, List.cons.injEq] at h
            exact ih h.2
      · rw [if_neg hc] at h
        cases hlines : textLines rest with
        | nil =>
            rw [hlines, consFirst] at h
            have hlength := congrArg List.length h
            simp at hlength
            omega
        | cons first others =>
            rw [hlines, consFirst] at h
            cases before with
            | nil =>
                -- the character goes in front of the line
                rw [List.nil_append, List.cons.injEq] at h
                obtain ⟨rfl, rfl⟩ := h
                obtain ⟨body, hbody, rfl⟩ := @ih [] _ hlines
                refine ⟨c :: body, ?_, rfl⟩
                rw [List.mem_cons, not_or]
                exact ⟨Ne.symm hc, hbody⟩
            | cons first' before =>
                rw [List.cons_append, List.cons.injEq] at h
                rw [h.2] at hlines
                exact @ih (first :: before) _ hlines

/-- All lines in front of another one have their newlines. -/
theorem isLine_of_mem_before {text : List Char} {before after : List (List Char)} {next : List Char}
    (h : textLines text = before ++ next :: after) : ∀ line ∈ before, IsLine line := by
  intro line hline
  obtain ⟨earlier, later, rfl⟩ := List.append_of_mem hline
  cases later with
  | nil =>
      rw [List.append_assoc] at h
      exact isLine_of_textLines_eq h
  | cons next' later =>
      rw [List.append_assoc] at h
      exact isLine_of_textLines_eq h

/-- The last lines of a file are its lines when they stand alone. -/
theorem textLines_flatten_of_suffix {text : List Char} {before after : List (List Char)}
    {next : List Char} (h : textLines text = before ++ next :: after) :
    textLines (next :: after).flatten = next :: after := by
  have htext := flatten_textLines text
  rw [h, List.flatten_append] at htext
  have hlines := textLines_flatten_append (isLine_of_mem_before h) (next :: after).flatten
  rw [htext, h] at hlines
  exact (List.append_cancel_left hlines).symm

/-- Lines that are put in the place of those before some line are read back. -/
theorem textLines_flatten {text : List Char} {before after : List (List Char)} {next : List Char}
    (h : textLines text = before ++ next :: after) {before' : List (List Char)}
    (h' : ∀ line ∈ before', IsLine line) :
    textLines (before' ++ next :: after).flatten = before' ++ next :: after := by
  rw [List.flatten_append, textLines_flatten_append h', textLines_flatten_of_suffix h]

/-- No carriage return is left. -/
theorem return_notMem_universalNewlines (text : List Char) : '\r' ∉ universalNewlines text := by
  induction text using universalNewlines.induct with
  | case1 => exact List.not_mem_nil
  | case2 rest ih =>
      rw [universalNewlines, List.mem_cons, not_or]
      exact ⟨by decide, ih⟩
  | case3 c rest hpair ih =>
      rw [universalNewlines.eq_3 _ _ hpair, List.mem_cons, not_or]
      refine ⟨?_, ih⟩
      split
      · decide
      · rename_i hc
        exact Ne.symm hc

/-- A text without carriage returns is read as it is. -/
theorem universalNewlines_of_notMem {text : List Char} (h : '\r' ∉ text) :
    universalNewlines text = text := by
  induction text using universalNewlines.induct with
  | case1 => rfl
  | case2 rest ih => exact absurd List.mem_cons_self h
  | case3 c rest hpair ih =>
      rw [List.mem_cons, not_or] at h
      rw [universalNewlines.eq_3 _ _ hpair, if_neg (Ne.symm h.1), ih h.2]

/-! ## Files -/

/-- The lines of a file that is opened in text mode. -/
def fileLines (content : List Char) : List (List Char) := textLines (universalNewlines content)

/-- No line has a carriage return. -/
theorem return_notMem_of_mem_fileLines {content line : List Char} (h : line ∈ fileLines content) :
    '\r' ∉ line := by
  intro hmem
  apply return_notMem_universalNewlines content
  rw [← flatten_textLines (universalNewlines content), List.mem_flatten]
  exact ⟨line, h, hmem⟩

/-- Lines that are written in the place of those before some line are read back. -/
theorem fileLines_flatten {content : List Char} {before after : List (List Char)} {next : List Char}
    (h : fileLines content = before ++ next :: after) {before' : List (List Char)}
    (hline : ∀ line ∈ before', IsLine line) (hreturn : ∀ line ∈ before', '\r' ∉ line) :
    fileLines (before' ++ next :: after).flatten = before' ++ next :: after := by
  have hnone : '\r' ∉ (before' ++ next :: after).flatten := by
    rw [List.mem_flatten]
    rintro ⟨line, hmem, hc⟩
    rcases List.mem_append.mp hmem with hmem | hmem
    · exact hreturn line hmem hc
    · have hold : line ∈ fileLines content := by
        rw [h]
        exact List.mem_append_right before hmem
      exact return_notMem_of_mem_fileLines hold hc
  rw [fileLines, universalNewlines_of_notMem hnone]
  exact textLines_flatten h hline

end QubesAdminLinux
