import QubesAdminLinux.Lib.ShellWords

/-! # Texts in double quotes

A text in double quotes, written for a shell and read as a literal of Python.  Both take a backslash for
an escape; the escapes they know are different.

* **`quoteDouble`** — a text in double quotes, with the escapes of a shell.
* **`literalBody?`** — what a string literal stands for, from the character behind its opening quote on.
* **`literalBody?_escapeDouble`** — the literal reader keeps the backslashes before dollar signs and
  backquotes; `flatMap_keptBackslash_eq_iff` says when it gives the text back. -/

namespace QubesAdminLinux

/-! ## Writing for a shell -/

/-- The characters that a shell acts upon within double quotes. -/
def activeInDouble (c : Char) : Bool := c = doubleQuote || c = backslash || c = '$' || c = backquote

/-- A text with a backslash before each of these characters. -/
def escapeDouble (text : List Char) : List Char :=
  text.flatMap fun c => if activeInDouble c then [backslash, c] else [c]

/-- A text in double quotes. -/
def quoteDouble (text : List Char) : List Char :=
  doubleQuote :: (escapeDouble text ++ [doubleQuote])

/-- There is nothing to escape. -/
@[simp] theorem escapeDouble_nil : escapeDouble [] = [] := rfl

/-- One character is escaped after the other. -/
theorem escapeDouble_cons (c : Char) (text : List Char) :
    escapeDouble (c :: text)
      = (if activeInDouble c then [backslash, c] else [c]) ++ escapeDouble text := List.flatMap_cons

/-! ## Reading a literal -/

/-- What a backslash with the character behind it stands for in a string literal.  The escapes that go
on behind the character, the numbers and names of characters, are not covered. -/
def escapeMeaning? (c : Char) : Option (List Char) :=
  if c = backslash ∨ c = singleQuote ∨ c = doubleQuote then some [c]
  else if c = 'a' then some [Char.ofNat 0x07]
  else if c = 'b' then some [Char.ofNat 0x08]
  else if c = 't' then some ['\t']
  else if c = 'n' then some ['\n']
  else if c = 'v' then some [Char.ofNat 0x0b]
  else if c = 'f' then some [Char.ofNat 0x0c]
  else if c = 'r' then some ['\r']
  else if c ∈ ['0', '1', '2', '3', '4', '5', '6', '7', 'x', 'u', 'U', 'N'] then none
  -- no escape: the backslash stays
  else some [backslash, c]

/-- The text of a string literal that ends with the next quote, which has to be the last character. -/
def literalBody? (quote : Char) : List Char → Option (List Char)
  | [] => none
  | [c] => if c = quote then some [] else none
  | c :: d :: rest =>
      if c = backslash then
        (escapeMeaning? d).bind fun meaning => (literalBody? quote rest).map (meaning ++ ·)
      else if c = quote then none
      else (literalBody? quote (d :: rest)).map (c :: ·)

/-- A character behind a backslash that is an escape of a shell only keeps the backslash. -/
def keptBackslash (c : Char) : List Char := if c = '$' ∨ c = backquote then [backslash, c] else [c]

/-- An escaped character keeps its meaning. -/
theorem escapeMeaning?_of_active {c : Char} (h : activeInDouble c = true) :
    escapeMeaning? c = some (keptBackslash c) := by
  simp only [activeInDouble, Bool.or_eq_true, decide_eq_true_eq] at h
  rcases h with ((rfl | rfl) | rfl) | rfl
  · decide
  · decide
  · decide
  · decide

/-- A text in double quotes is read as a literal with the backslashes before dollar signs and
backquotes. -/
theorem literalBody?_escapeDouble (text : List Char) :
    literalBody? doubleQuote (escapeDouble text ++ [doubleQuote])
      = some (text.flatMap keptBackslash) := by
  induction text with
  | nil => decide
  | cons c rest ih =>
      rw [escapeDouble_cons, List.flatMap_cons]
      by_cases hactive : activeInDouble c = true
      · rw [if_pos hactive]
        show literalBody? doubleQuote (backslash :: c :: (escapeDouble rest ++ [doubleQuote])) = _
        rw [literalBody?, if_pos rfl, escapeMeaning?_of_active hactive, ih]
        rfl
      · rw [if_neg hactive]
        simp only [activeInDouble, Bool.or_eq_true, decide_eq_true_eq, not_or] at hactive
        obtain ⟨⟨⟨hquote, hbackslash⟩, hdollar⟩, hbackquote⟩ := hactive
        have hkept : keptBackslash c = [c] := if_neg (not_or.mpr ⟨hdollar, hbackquote⟩)
        -- at least the closing quote follows
        obtain ⟨d, tail, htail⟩ : ∃ d tail, escapeDouble rest ++ [doubleQuote] = d :: tail :=
          List.exists_cons_of_ne_nil (List.append_ne_nil_of_right_ne_nil _ (List.cons_ne_nil _ _))
        rw [hkept, List.append_assoc, htail, List.singleton_append, literalBody?, if_neg hbackslash,
          if_neg hquote, ← htail, ih]
        rfl

/-- The text is given back exactly if it has no dollar sign and no backquote. -/
theorem flatMap_keptBackslash_eq_iff (text : List Char) :
    text.flatMap keptBackslash = text ↔ ∀ c ∈ text, c ≠ '$' ∧ c ≠ backquote := by
  have hlength : ∀ text : List Char, text.length ≤ (text.flatMap keptBackslash).length := by
    intro text
    induction text with
    | nil => exact le_rfl
    | cons c rest ih =>
        rw [List.flatMap_cons, List.length_append, List.length_cons, keptBackslash]
        split
        · simp only [List.length_cons, List.length_nil]
          omega
        · simp only [List.length_cons, List.length_nil]
          omega
  induction text with
  | nil => simp
  | cons c rest ih =>
      rw [List.flatMap_cons, List.forall_mem_cons, keptBackslash]
      by_cases hc : c = '$' ∨ c = backquote
      · -- the result is longer
        rw [if_pos hc]
        constructor
        · intro heq
          have hlen := congrArg List.length heq
          have hle := hlength rest
          simp only [List.length_append, List.length_cons, List.length_nil] at hlen
          omega
        · rintro ⟨⟨hdollar, hbackquote⟩, -⟩
          exact absurd hc (not_or.mpr ⟨hdollar, hbackquote⟩)
      · rw [if_neg hc, List.singleton_append, List.cons.injEq]
        constructor
        · rintro ⟨-, heq⟩
          exact ⟨not_or.mp hc, ih.mp heq⟩
        · rintro ⟨-, hall⟩
          exact ⟨rfl, ih.mpr hall⟩

/-- Different texts are different in double quotes. -/
theorem quoteDouble_injective {a b : List Char} (h : quoteDouble a = quoteDouble b) : a = b := by
  have hescape : ∀ a b : List Char, escapeDouble a = escapeDouble b → a = b := by
    intro a
    induction a with
    | nil =>
        intro b hb
        cases b with
        | nil => rfl
        | cons d rest =>
            rw [escapeDouble_cons] at hb
            split at hb <;> cases hb
    | cons c rest ih =>
        intro b hb
        cases b with
        | nil =>
            rw [escapeDouble_cons] at hb
            split at hb <;> cases hb
        | cons d rest' =>
            rw [escapeDouble_cons, escapeDouble_cons] at hb
            by_cases hc : activeInDouble c = true
            · by_cases hd : activeInDouble d = true
              · rw [if_pos hc, if_pos hd] at hb
                simp only [List.cons_append, List.nil_append, List.cons.injEq, true_and] at hb
                rw [hb.1, ih rest' hb.2]
              · rw [if_pos hc, if_neg hd] at hb
                simp only [List.cons_append, List.nil_append, List.cons.injEq] at hb
                -- the other text would have to go on with an unescaped backslash
                rw [← hb.1] at hd
                exact absurd (by decide) hd
            · by_cases hd : activeInDouble d = true
              · rw [if_neg hc, if_pos hd] at hb
                simp only [List.cons_append, List.nil_append, List.cons.injEq] at hb
                rw [hb.1] at hc
                exact absurd (by decide) hc
              · rw [if_neg hc, if_neg hd] at hb
                simp only [List.cons_append, List.nil_append, List.cons.injEq] at hb
                rw [hb.1, ih rest' hb.2]
  rw [quoteDouble, quoteDouble, List.cons.injEq, and_iff_right rfl] at h
  exact hescape a b (List.append_cancel_right h)

end QubesAdminLinux
