import Mathlib.Data.List.Forall2
import Mathlib.Data.List.TakeWhile
import QubesAdminLinux.VmUpdate.OutputTexts

/-! # The lines of the error stream

Whatever an agent writes to its error stream, the reader in dom0 should take it line by line to the end
and pass each line on.

* **`stderrUnread`** — the lines that the reader leaves on the stream.
* **`StderrHandled`** — the reader returns, leaves nothing, and puts one message for each line of which
  something is left after sanitising.
* **`stderrHandled_iff`** — this holds if and only if no line before the end of the progress consists
  of spaces. -/

namespace QubesAdminLinux

open QubeConnection

/-! ## Lines of spaces -/

/-- A text has no word exactly if it is white space. -/
theorem words_eq_nil_iff (text : String) :
    words text = [] ↔ ∀ c ∈ text.toList, isSpace c = true := by
  have hfrom : ∀ (l current : List Char),
      wordsFrom current l = [] ↔ current = [] ∧ ∀ c ∈ l, isSpace c = true := by
    intro l
    induction l with
    | nil =>
        intro current
        cases current <;> simp [wordsFrom, lastLine]
    | cons c rest ih =>
        intro current
        rw [wordsFrom, List.forall_mem_cons]
        by_cases hc : isSpace c = true
        · rw [if_pos hc, List.append_eq_nil_iff, ih]
          cases current <;> simp [lastLine, hc]
        · -- a character of a word makes the current one longer
          rw [if_neg hc, ih]
          simp [hc]
  rw [words, List.map_eq_nil_iff, hfrom]
  simp

/-- White space is no number. -/
theorem ofText_eq_none {text : String} (h : ∀ c ∈ text.toList, isSpace c = true) :
    PyFloat.ofText text = none := by
  have hstrip : strip text.toList = [] := by
    rw [strip, List.dropWhile_eq_nil_iff.mpr h]
    rfl
  rw [PyFloat.ofText, hstrip]
  decide

/-- A line cannot be read as a progress or as a text exactly if it has no word. -/
theorem readProgress_eq_noWord_iff (line : String) :
    readProgress line = .noWord ↔ words line = [] := by
  constructor
  · intro h
    rw [readProgress] at h
    split at h
    · cases h
    · split at h
      · rename_i hlast
        exact List.getLast?_eq_none_iff.mp hlast
      · split at h <;> cases h
  · intro h
    rw [readProgress, ofText_eq_none ((words_eq_nil_iff line).mp h), h]
    rfl

/-- Among the printable characters, the space is the only white space. -/
theorem isSpace_iff_of_printable {c : Char} (h : Printable c) : isSpace c = true ↔ c = ' ' := by
  unfold Printable at h
  rw [isSpace]
  simp only [Bool.or_eq_true, Bool.and_eq_true, decide_eq_true_eq]
  constructor
  · intro hc
    by_contra hne
    -- all other white space is outside of the printable range
    simp only [hne, false_or] at hc
    omega
  · intro hc
    subst hc
    decide

/-- A blank line consists of spaces, as far as anything is left of it. -/
theorem blankLine_iff (untrustedLine : Bytes) :
    BlankLine untrustedLine ↔ sanitizeOutput untrustedLine true ≠ "" ∧
      ∀ c ∈ (sanitizeOutput untrustedLine true).toList, c = ' ' := by
  rw [BlankLine, readProgress_eq_noWord_iff, words_eq_nil_iff]
  apply and_congr_right
  intro _
  constructor
  · intro h c hc
    exact (isSpace_iff_of_printable (printable_of_mem_sanitizeOutput hc)).mp (h c hc)
  · intro h c hc
    exact (isSpace_iff_of_printable (printable_of_mem_sanitizeOutput hc)).mpr (h c hc)

/-! ## What is read -/

/-- The lines that `_collect_stderr` leaves on the stream. -/
def stderrUnread (progressFinished : Bool) : List Bytes → List Bytes
  | [] => []
  | untrustedLine :: rest =>
      let line := sanitizeOutput untrustedLine true
      if line = "" then stderrUnread progressFinished rest
      else if progressFinished then stderrUnread true rest
      else
        match readProgress line with
        | .number progress => stderrUnread (progress = .finite 100) rest
        | .text => stderrUnread false rest
        -- the exception leaves the loop after this line
        | .noWord => rest

/-- A message that `_collect_stderr` may put for a line: its progress, or the line itself. -/
def PassedOn (qname line : String) (message : Message PyFloat) : Prop :=
  (∃ progress, message = .status (.updating qname progress)) ∨ message = .line ⟨qname, "err", line⟩

/-- The lines of a stream of which something is left after sanitising. -/
def sanitizedLines (lines : List Bytes) : List String :=
  (lines.map fun untrustedLine => sanitizeOutput untrustedLine true).filter fun line => line ≠ ""

/-- `_collect_stderr` handles every line of a stream. -/
structure StderrHandled (qname : String) (stream : Bytes) : Prop where
  /-- It does not raise. -/
  returns : (collectStderr qname false (readLines stream)).2 = none
  /-- It reads the stream to its end. -/
  readToEnd : stderrUnread false (readLines stream) = []
  /-- It puts one message for each line, in their order. -/
  passedOn : List.Forall₂ (PassedOn qname) (sanitizedLines (readLines stream))
    (collectStderr qname false (readLines stream)).1

/-- Reading that does not raise goes to the end. -/
theorem stderrUnread_of_returns {qname : String} {progressFinished : Bool} {lines : List Bytes}
    (h : (collectStderr qname progressFinished lines).2 = none) :
    stderrUnread progressFinished lines = [] := by
  induction lines generalizing progressFinished with
  | nil => rfl
  | cons untrustedLine rest ih =>
      rw [collectStderr] at h
      rw [stderrUnread]
      split at h
      · rename_i hempty
        rw [if_pos hempty]
        exact ih h
      · rename_i hempty
        rw [if_neg hempty]
        split at h
        · rename_i hfinished
          rw [if_pos hfinished]
          exact ih h
        · rename_i hfinished
          rw [if_neg hfinished]
          cases hreading : readProgress (sanitizeOutput untrustedLine true) with
          | number progress =>
              rw [hreading] at h
              exact ih h
          | text =>
              rw [hreading] at h
              exact ih h
          | noWord =>
              rw [hreading] at h
              cases h

/-- Reading that does not raise passes every line on. -/
theorem passedOn_of_returns {qname : String} {progressFinished : Bool} {lines : List Bytes}
    (h : (collectStderr qname progressFinished lines).2 = none) :
    List.Forall₂ (PassedOn qname) (sanitizedLines lines)
      (collectStderr qname progressFinished lines).1 := by
  induction lines generalizing progressFinished with
  | nil => exact List.Forall₂.nil
  | cons untrustedLine rest ih =>
      have hlines : sanitizedLines (untrustedLine :: rest)
          = if sanitizeOutput untrustedLine true = "" then sanitizedLines rest
            else sanitizeOutput untrustedLine true :: sanitizedLines rest := by
        simp [sanitizedLines, List.filter_cons, apply_ite]
      rw [collectStderr] at h ⊢
      rw [hlines]
      split at h
      · rename_i hempty
        rw [if_pos hempty, if_pos hempty]
        exact ih h
      · rename_i hempty
        rw [if_neg hempty, if_neg hempty]
        split at h
        · rename_i hfinished
          rw [if_pos hfinished]
          exact .cons (Or.inr rfl) (ih h)
        · rename_i hfinished
          rw [if_neg hfinished]
          -- a number is passed on as the progress, anything else as it is
          cases hreading : readProgress (sanitizeOutput untrustedLine true) with
          | number progress =>
              rw [hreading] at h
              exact .cons (Or.inl ⟨progress, rfl⟩) (ih h)
          | text =>
              rw [hreading] at h
              exact .cons (Or.inr rfl) (ih h)
          | noWord =>
              rw [hreading] at h
              cases h

/-- A line of spaces before the progress has reached 100. -/
def SpacesBeforeEnd (lines : List Bytes) : Prop :=
  ∃ before untrustedLine after, lines = before ++ untrustedLine :: after ∧
    (sanitizeOutput untrustedLine true ≠ "" ∧
      ∀ c ∈ (sanitizeOutput untrustedLine true).toList, c = ' ') ∧
    ∀ earlier ∈ before, readProgress (sanitizeOutput earlier true) ≠ .number (.finite 100)

/-- The error stream is handled to its end, line by line, if and only if no line consists of spaces
before one has been read as the progress 100. -/
theorem stderrHandled_iff (qname : String) (stream : Bytes) :
    StderrHandled qname stream ↔ ¬ SpacesBeforeEnd (readLines stream) := by
  have hblank : SpacesBeforeEnd (readLines stream) ↔ BlankBeforeEnd (readLines stream) := by
    unfold SpacesBeforeEnd BlankBeforeEnd
    simp only [blankLine_iff, EndsProgress, ne_eq]
  rw [hblank, ← collectStderr_raises_iff qname, Option.not_isSome_iff_eq_none]
  constructor
  · intro h
    exact h.returns
  · intro h
    exact ⟨h, stderrUnread_of_returns h, passedOn_of_returns h⟩

/-- An agent that writes a single space makes the reader raise, and the rest is not read. -/
theorem stderr_not_handled :
    (¬ ∀ (qname : String) (stream : Bytes), StderrHandled qname stream) ∧
      (collectStderr "work" false (readLines (encodeAscii " \n50\n"))).2
        = some (.indexError "list index out of range") ∧
      stderrUnread false (readLines (encodeAscii " \n50\n")) = [encodeAscii "50\n"] := by
  have hraises : (collectStderr "work" false (readLines (encodeAscii " \n50\n"))).2
      = some (.indexError "list index out of range") := by decide +kernel
  refine ⟨fun h => ?_, hraises, by decide +kernel⟩
  have hreturns := (h "work" (encodeAscii " \n50\n")).returns
  rw [hraises] at hreturns
  cases hreturns

end QubesAdminLinux
