import QubesAdminLinux.Lib.Text
import Mathlib.Tactic.Common

/-! # The words of a shell command

How a POSIX shell takes a command apart that consists of literal words only: blanks separate words,
single quotes, double quotes and backslashes quote characters.  Anything else that the shell would act
upon (operators, expansions, patterns, assignments, reserved words) makes the reader give up, so that
a command that is read runs its first word with the other ones as arguments and does nothing more.

* **`ShellReader.step`** — the reader as a state machine over the characters.
* **`simpleCommand`** — the words of a command, if it consists of literal words.
* **`Spells text word`** — read where nothing is quoted, `text` adds `word` to the current word:
  `spells_literal` for characters without a meaning, `spells_quoteWord` for any text in single quotes.
* **`simpleCommand_of_spells`** — a sequence of such texts is read as the sequence of its words. -/

namespace QubesAdminLinux

/-- How the next character is quoted. -/
inductive QuoteMode
  /-- Not at all. -/
  | bare
  /-- By a backslash. -/
  | escaped
  /-- By single quotes. -/
  | single
  /-- By double quotes. -/
  | double
  /-- By a backslash in double quotes. -/
  | doubleEscaped
  deriving DecidableEq, Repr

/-- The state of a reader of a command. -/
structure ShellReader where
  /-- How the next character is quoted. -/
  mode : QuoteMode := .bare
  /-- The word that is being read, if one has begun. -/
  word : Option (List Char) := none
  /-- The words before. -/
  words : List (List Char) := []
  deriving DecidableEq, Repr

/-- A backquote. -/
def backquote : Char := Char.ofNat 0x60

/-- The characters other than blanks, quotes and backslashes that have a meaning for the shell where
they are not quoted. -/
def shellActive : List Char :=
  ['|', '&', ';', '<', '>', '(', ')', '$', backquote, '\n', '*', '?', '[', ']', '#', '~', '=', '%',
    Char.ofNat 0x7b, Char.ofNat 0x7d, '!', '^']

/-- The words that have a meaning for the shell in the place of a command. -/
def reservedWords : List String :=
  ["if", "then", "else", "elif", "fi", "do", "done", "case", "esac", "while", "until", "for", "in"]

namespace ShellReader

/-- The word goes on with a character. -/
def add (r : ShellReader) (c : Char) : ShellReader := { r with word := some (r.word.getD [] ++ [c]) }

/-- A quote begins the word, which may stay empty. -/
def quote (r : ShellReader) (mode : QuoteMode) : ShellReader :=
  { r with mode := mode, word := some (r.word.getD []) }

/-- The word ends. -/
def endWord (r : ShellReader) : ShellReader :=
  { r with word := none, words := r.words ++ r.word.toList }

/-- Read a character. -/
def step (r : ShellReader) (c : Char) : Option ShellReader :=
  match r.mode with
  | .bare =>
      if c = singleQuote then some (r.quote .single)
      else if c = doubleQuote then some (r.quote .double)
      else if c = backslash then some { r with mode := .escaped }
      else if c = ' ' ∨ c = '\t' then some r.endWord
      else if c ∈ shellActive then none
      else some (r.add c)
  | .escaped =>
      -- the end of a line is removed with the backslash
      some { (if c = '\n' then r else r.add c) with mode := .bare }
  | .single => if c = singleQuote then some { r with mode := .bare } else some (r.add c)
  | .double =>
      if c = doubleQuote then some { r with mode := .bare }
      else if c = backslash then some { r with mode := .doubleEscaped }
      else if c = '$' ∨ c = backquote then none
      else some (r.add c)
  | .doubleEscaped =>
      if c = '\n' then some { r with mode := .double }
      else if c ∈ ['$', backquote, doubleQuote, backslash] then some { r.add c with mode := .double }
      -- before any other character the backslash stands for itself
      else some { (r.add backslash).add c with mode := .double }

/-- Read some characters. -/
def run (r : ShellReader) : List Char → Option ShellReader
  | [] => some r
  | c :: rest => (r.step c).bind fun r' => r'.run rest

/-- The words at the end of a command; all quotes have to be closed. -/
def finish (r : ShellReader) : Option (List String) :=
  if r.mode = .bare then some (r.endWord.words.map String.ofList) else none

/-- Nothing is read. -/
@[simp] theorem run_nil (r : ShellReader) : r.run [] = some r := rfl

/-- One more character. -/
theorem run_cons {r r' : ShellReader} {c : Char} (h : r.step c = some r') (rest : List Char) :
    r.run (c :: rest) = r'.run rest := by
  rw [run, h, Option.bind_some]

/-- A text is read part by part. -/
theorem run_append {r r' : ShellReader} {text : List Char} (h : r.run text = some r')
    (rest : List Char) : r.run (text ++ rest) = r'.run rest := by
  induction text generalizing r with
  | nil =>
      cases h
      rfl
  | cons c text ih =>
      rw [List.cons_append, run]
      rw [run] at h
      cases hstep : r.step c with
      | none =>
          rw [hstep] at h
          cases h
      | some r₁ =>
          rw [hstep, Option.bind_some] at h
          rw [Option.bind_some]
          exact ih h

end ShellReader

open ShellReader

/-- The words of a command that consists of literal words. -/
def simpleCommand (text : String) : Option (List String) :=
  (run {} text.toList).bind fun r => r.finish.bind fun words =>
    if words.head?.any (· ∈ reservedWords) then none else some words

/-! ## Texts that spell words -/

/-- Where nothing is quoted, `text` adds `word` to the current word. -/
def Spells (text word : List Char) : Prop :=
  ∀ r : ShellReader, r.mode = .bare →
    r.run text = some { r with word := some (r.word.getD [] ++ word) }

/-- A character that stands for itself where nothing is quoted. -/
def isLiteral (c : Char) : Bool :=
  c ≠ singleQuote && c ≠ doubleQuote && c ≠ backslash && c ≠ ' ' && c ≠ '\t' && c ∉ shellActive

/-- A literal character is added to the word. -/
theorem step_of_isLiteral {c : Char} (h : isLiteral c = true) {r : ShellReader}
    (hmode : r.mode = .bare) : r.step c = some (r.add c) := by
  simp only [isLiteral, Bool.and_eq_true, decide_eq_true_eq] at h
  obtain ⟨⟨⟨⟨⟨hsingle, hdouble⟩, hbackslash⟩, hspace⟩, htab⟩, hactive⟩ := h
  have hblank : ¬(c = ' ' ∨ c = '\t') := by
    rintro (h | h)
    · exact hspace h
    · exact htab h
  unfold step
  rw [hmode]
  dsimp only
  rw [if_neg hsingle, if_neg hdouble, if_neg hbackslash, if_neg hblank, if_neg hactive]

/-- In single quotes every character but the closing quote stands for itself. -/
theorem step_single {c : Char} (h : c ≠ singleQuote) {r : ShellReader}
    (hmode : r.mode = .single) : r.step c = some (r.add c) := by
  unfold step
  rw [hmode]
  dsimp only
  rw [if_neg h]

/-- Characters without a meaning spell themselves. -/
theorem spells_literal {text : List Char} (hne : text ≠ []) (h : ∀ c ∈ text, isLiteral c = true) :
    Spells text text := by
  induction text with
  | nil => exact absurd rfl hne
  | cons c rest ih =>
      intro r hmode
      rw [List.forall_mem_cons] at h
      rw [run_cons (step_of_isLiteral h.1 hmode)]
      by_cases hrest : rest = []
      · rw [hrest]
        rfl
      · rw [ih hrest h.2 (r.add c) hmode]
        simp [add]

/-- A text with every single quote as a quoted one between two quoted parts. -/
def escapeSingle (text : List Char) : List Char :=
  text.flatMap fun c =>
    if c = singleQuote then [singleQuote, backslash, singleQuote, singleQuote] else [c]

/-- A text in single quotes. -/
def quoteWord (text : List Char) : List Char := singleQuote :: escapeSingle text ++ [singleQuote]

/-- In single quotes, an escaped text is read as it was. -/
theorem run_escapeSingle (text : List Char) {r : ShellReader} {word : List Char}
    (hmode : r.mode = .single) (hword : r.word = some word) :
    r.run (escapeSingle text) = some { r with word := some (word ++ text) } := by
  induction text generalizing r word with
  | nil =>
      rw [escapeSingle, List.flatMap_nil, run_nil, List.append_nil, ← hword]
  | cons c rest ih =>
      rw [escapeSingle, List.flatMap_cons]
      have hchar : r.run (if c = singleQuote then [singleQuote, backslash, singleQuote, singleQuote]
          else [c]) = some { r with word := some (word ++ [c]) } := by
        obtain ⟨mode, current, words⟩ := r
        dsimp only at hmode hword
        subst hmode hword
        by_cases hc : c = singleQuote
        · -- the quotes are closed, a quote is read, and quotes are opened again
          rw [if_pos hc, hc]
          rfl
        · rw [if_neg hc, run_cons (step_single hc rfl), run_nil]
          rfl
      rw [run_append hchar]
      have hrest := ih (r := { r with word := some (word ++ [c]) }) hmode rfl
      rw [escapeSingle] at hrest
      rw [hrest, List.append_assoc]
      rfl

/-- A quoted text spells the text, whatever its characters are. -/
theorem spells_quoteWord (text : List Char) : Spells (quoteWord text) text := by
  intro r hmode
  have hopen : r.step singleQuote = some (r.quote .single) := by
    rw [step, hmode]
    rfl
  have hinside := run_escapeSingle text (r := r.quote .single) rfl rfl
  rw [quoteWord, List.cons_append, run_cons hopen, run_append hinside]
  -- the closing quote
  show some _ = some _
  rw [← hmode]
  rfl

/-! ## Sequences of words -/

/-- Texts, each after a blank, are read as the words that they spell. -/
theorem run_spelled {spelled : List (List Char × List Char)}
    (h : ∀ p ∈ spelled, Spells p.1 p.2) {r : ShellReader} (hmode : r.mode = .bare) :
    ∃ r', r.run (spelled.flatMap fun p => ' ' :: p.1) = some r' ∧ r'.mode = .bare ∧
      r'.endWord.words = r.endWord.words ++ spelled.map Prod.snd := by
  induction spelled generalizing r with
  | nil => exact ⟨r, rfl, hmode, (List.append_nil _).symm⟩
  | cons p rest ih =>
      rw [List.forall_mem_cons] at h
      have hblank : r.step ' ' = some r.endWord := by
        rw [step, hmode]
        rfl
      have hend : r.endWord.mode = .bare := hmode
      obtain ⟨r', hrun, hmode', hwords⟩ :=
        ih h.2 (r := { r.endWord with word := some ([] ++ p.2) }) hend
      refine ⟨r', ?_, hmode', ?_⟩
      · rw [List.flatMap_cons, List.cons_append, run_cons hblank, run_append (h.1 r.endWord hend)]
        exact hrun
      · rw [hwords, List.map_cons]
        simp [endWord]

/-- A command that spells words, separated by blanks, is read as these words. -/
theorem simpleCommand_of_spells {text : String} {first word : List Char}
    {spelled : List (List Char × List Char)}
    (htext : text.toList = first ++ spelled.flatMap fun p => ' ' :: p.1) (hfirst : Spells first word)
    (h : ∀ p ∈ spelled, Spells p.1 p.2) (hword : String.ofList word ∉ reservedWords) :
    simpleCommand text = some ((word :: spelled.map Prod.snd).map String.ofList) := by
  have hstart := hfirst {} rfl
  obtain ⟨r', hrun, hmode, hwords⟩ :=
    run_spelled h (r := { word := some ([] ++ word) }) rfl
  have hfinish : r'.finish = some ((word :: spelled.map Prod.snd).map String.ofList) := by
    rw [finish, if_pos hmode, hwords]
    rfl
  rw [simpleCommand, htext, run_append hstart]
  show (run { word := some ([] ++ word) } _).bind _ = _
  rw [hrun, Option.bind_some, hfinish, Option.bind_some, if_neg]
  rw [List.map_cons, List.head?_cons, Option.any_some, decide_eq_true_eq]
  exact hword

end QubesAdminLinux
