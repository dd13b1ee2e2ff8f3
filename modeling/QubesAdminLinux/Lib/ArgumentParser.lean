import QubesAdminLinux.Lib.Text
import Mathlib.Tactic.Common

/-! # Command lines of options

A parser of command lines that consist of options: flags, and options with one value.  Words are first
sorted into options and arguments, and then read from left to right; a beginning of an option that belongs
to no other one stands for it.

* **`Parser.parse`** — the options of a command line, in their order, or how it is rejected.
* **`parse_pieces`** — a command line put together from options is read back, up to their conflicts.
* **`parse_value_error`** — an option is rejected if the word behind it is not taken as an argument.
* **`compatible_of_parse`** — the options of an accepted command line do not exclude each other. -/

namespace QubesAdminLinux

namespace ArgumentParser

/-- A word of a command line. -/
abbrev Word := List Char

/-- What an option does. -/
inductive Kind
  /-- It is set. -/
  | flag
  /-- It takes a value. -/
  | value
  /-- It prints the help. -/
  | help
  deriving DecidableEq, Repr

/-- An option with its value. -/
abbrev Action (α : Type) := α × Option Word

/-- The options of a parser. -/
structure Parser (α : Type) where
  /-- The option strings, in the order in which they were added. -/
  table : List (Word × α)
  /-- What an option does. -/
  kind : α → Kind
  /-- Whether a value has the type of the option. -/
  accepts : α → Word → Bool
  /-- Whether an action sets the default of its option, which then does not count as given. -/
  isDefault : Action α → Bool
  /-- Whether two options exclude each other. -/
  exclusive : α → α → Bool

/-- How a command line is rejected. -/
inductive Rejection
  /-- It is an error. -/
  | usage
  /-- It asks for the help. -/
  | help
  deriving DecidableEq, Repr

/-- A word as it is understood. -/
inductive Token (α : Type)
  /-- An argument. -/
  | argument (word : Word)
  /-- An option, by one of its strings, possibly with a text behind it. -/
  | option (a : α) (string : Word) (explicit : Option Word)
  /-- What looks like an option but is none. -/
  | unknown (word : Word)
  /-- `--`. -/
  | separator
  deriving DecidableEq, Repr

/-- An option as it is written on a command line. -/
structure Piece (α : Type) where
  /-- The option. -/
  a : α
  /-- The string that is used for it. -/
  string : Word
  /-- Its value. -/
  value : Option Word
  /-- Whether the value stands behind an equals sign, and not in a word of its own. -/
  joined : Bool := false

/-- The words of an option. -/
def Piece.words {α : Type} (piece : Piece α) : List Word :=
  match piece.value with
  | none => [piece.string]
  | some text => if piece.joined then [piece.string ++ '=' :: text] else [piece.string, text]

/-- What an option is read as. -/
def Piece.action {α : Type} (piece : Piece α) : Action α := (piece.a, piece.value)

/-- The tokens of an option. -/
def Piece.tokens {α : Type} (piece : Piece α) : List (Token α) :=
  match piece.value with
  | none => [.option piece.a piece.string none]
  | some text =>
      if piece.joined then [.option piece.a piece.string (some text)]
      else [.option piece.a piece.string none, .argument text]

/-- `--`. -/
def separatorWord : Word := ['-', '-']

/-- The texts before and after the first equals sign. -/
def splitEquals (word : Word) : Option (Word × Word) :=
  if '=' ∈ word then some (upTo '=' word, (word.dropWhile (· ≠ '=')).tail) else none

/-- Whether a character is a digit. -/
def isDigitChar (c : Char) : Bool := (PyFloat.digit? c).isSome

/-- What `$` matches: the end of the text, or a line feed at its end. -/
def isLineEnd (rest : Word) : Bool := rest = [] || rest = ['\n']

/-- `^-\d+$|^-\d*\.\d+$`; the end may be in front of a newline. -/
def isNegativeNumber : Word → Bool
  | '-' :: rest =>
      match rest.dropWhile isDigitChar with
      | '.' :: fraction =>
          (fraction.takeWhile isDigitChar ≠ []) && isLineEnd (fraction.dropWhile isDigitChar)
      | more => (rest.takeWhile isDigitChar ≠ []) && isLineEnd more
  | _ => false

namespace Parser

variable {α : Type} (p : Parser α)

/-! ## Sorting the words -/

/-- The option with a string. -/
def find (string : Word) : Option α := p.table.lookup string

/-- `_get_option_tuples`: the options that a word may be the beginning of. -/
def candidates : Word → List (α × Word × Option Word)
  | '-' :: '-' :: name =>
      let word := '-' :: '-' :: name
      let (start, explicit) :=
        match splitEquals word with
        | some (start, text) => (start, some text)
        | none => (word, none)
      p.table.filterMap fun (string, a) =>
        if start.isPrefixOf string then some (a, string, explicit) else none
  | '-' :: c :: text =>
      -- a text may follow the single character directly
      p.table.filterMap fun (string, a) =>
        if string = ['-', c] then some (a, string, some text)
        else if ('-' :: c :: text).isPrefixOf string then some (a, string, none)
        else none
  | _ => []

/-- An option before an equals sign. -/
def findBeforeEquals (word : Word) : Option (α × Word × Word) :=
  (splitEquals word).bind fun (string, text) => (p.find string).map fun a => (a, string, text)

/-- `_parse_optional`. -/
def classify (word : Word) : Except Rejection (Token α) :=
  if word.head? ≠ some '-' then .ok (.argument word)
  else
    match p.find word with
    | some a => .ok (.option a word none)
    | none =>
        if word = ['-'] then .ok (.argument word)
        else
          match p.findBeforeEquals word with
          | some (a, string, text) => .ok (.option a string (some text))
          | none =>
              match p.candidates word with
              | [(a, string, explicit)] => .ok (.option a string explicit)
              | [] =>
                  if isNegativeNumber word || ' ' ∈ word then .ok (.argument word)
                  else .ok (.unknown word)
              -- an ambiguous option
              | _ => .error .usage

/-- The words of a command line; all of them are arguments behind `--`. -/
def tokens : List Word → Except Rejection (List (Token α))
  | [] => .ok []
  | word :: rest =>
      if word = separatorWord then .ok (.separator :: rest.map .argument)
      else
        match p.classify word, tokens rest with
        | .ok token, .ok more => .ok (token :: more)
        | _, _ => .error .usage

/-! ## Reading the options -/

/-- The options read so far, and the words that belong to none. -/
structure Taken (α : Type) where
  /-- The options, in their order. -/
  actions : List (Action α) := []
  /-- The other words. -/
  extras : List Word := []
  deriving DecidableEq

/-- A word that belongs to no option. -/
def Taken.extra (t : Taken α) (word : Word) : Taken α := { t with extras := t.extras ++ [word] }

/-- `take_action`. -/
def take (t : Taken α) (action : Action α) : Except Rejection (Taken α) :=
  if action.2.any fun text => !p.accepts action.1 text then .error .usage
  else if !p.isDefault action
      && t.actions.any fun seen => !p.isDefault seen && p.exclusive action.1 seen.1 then .error .usage
  else if p.kind action.1 = .help then .error .help
  else .ok { t with actions := t.actions ++ [action] }

/-- Take some actions. -/
def takeAll (t : Taken α) : List (Action α) → Except Rejection (Taken α)
  | [] => .ok t
  | action :: rest =>
      match p.take t action with
      | .error rejection => .error rejection
      | .ok t => takeAll t rest

/-- An option that still needs its value, if it has one, and the actions in front of it. -/
abbrev Pending (α : Type) := List (Action α) × Option α

/-- An option without a text behind it. -/
def pending (a : α) : Pending α := if p.kind a = .value then ([], some a) else ([(a, none)], none)

/-- An option with a text behind it: the value, or, for a single dash, further options. -/
def cluster (single : Bool) : α → Word → Except Rejection (Pending α)
  | a, [] => if p.kind a = .value then .ok ([(a, some [])], none) else .error .usage
  | a, c :: more =>
      if p.kind a = .value then .ok ([(a, some (c :: more))], none)
      else if single then
        match p.find ['-', c] with
        | none => .error .usage
        | some b =>
            if more = [] then .ok ((a, none) :: (p.pending b).1, (p.pending b).2)
            else (cluster single b more).map fun next => ((a, none) :: next.1, next.2)
      else .error .usage

/-- Whether an option string starts with a single dash. -/
def isSingle (string : Word) : Bool := string.tail.head? ≠ some '-'

/-- The actions of an option that was found. -/
def consumeOption (a : α) (string : Word) : Option Word → Except Rejection (Pending α)
  | none => .ok (p.pending a)
  | some text => p.cluster (isSingle string) a text

/-- `_parse_known_args`, for a parser without positional arguments. -/
def consume (t : Taken α) : List (Token α) → Except Rejection (Taken α)
  | [] => .ok t
  | .argument word :: rest => consume (t.extra word) rest
  | .separator :: rest => consume (t.extra separatorWord) rest
  | .unknown word :: rest => consume (t.extra word) rest
  | .option a string explicit :: rest =>
      match p.consumeOption a string explicit with
      | .error rejection => .error rejection
      | .ok (actions, none) =>
          match p.takeAll t actions with
          | .error rejection => .error rejection
          | .ok t => consume t rest
      | .ok (actions, some b) =>
          match rest with
          | .argument value :: rest =>
              match p.takeAll t (actions ++ [(b, some value)]) with
              | .error rejection => .error rejection
              | .ok t => consume t rest
          -- the value is missing
          | _ => .error .usage

/-- `parse_args`: the options of a command line, in their order. -/
def parse (words : List Word) : Except Rejection (List (Action α)) :=
  match p.tokens words with
  | .error rejection => .error rejection
  | .ok tokens =>
      match p.consume {} tokens with
      | .error rejection => .error rejection
      | .ok t => if t.extras = [] then .ok t.actions else .error .usage

/-! ## Taking actions -/

/-- Whether an action is refused after another one. -/
def clash (seen action : Action α) : Bool :=
  !p.isDefault action && !p.isDefault seen && p.exclusive action.1 seen.1

/-- An action that can be taken: its value has the type of its option, which is not the help. -/
structure Acceptable (action : Action α) : Prop where
  /-- The type of the value. -/
  accepts : ∀ text ∈ action.2, p.accepts action.1 text = true
  /-- The option does not ask for the help. -/
  kind : p.kind action.1 ≠ .help

/-- Actions that can be taken one after the other. -/
structure Compatible (actions : List (Action α)) : Prop where
  /-- Each can be taken. -/
  acceptable : ∀ action ∈ actions, p.Acceptable action
  /-- None is refused after an earlier one. -/
  pairwise : actions.Pairwise fun seen action => p.clash seen action = false

variable {p}

/-- The empty command line is compatible. -/
theorem compatible_nil : p.Compatible [] := ⟨by simp, .nil⟩

/-- Actions with one more behind them. -/
theorem compatible_concat {actions : List (Action α)} {action : Action α} :
    p.Compatible (actions ++ [action]) ↔
      p.Compatible actions ∧ p.Acceptable action ∧ ∀ seen ∈ actions, p.clash seen action = false := by
  constructor
  · intro h
    have hpairwise := List.pairwise_append.mp h.pairwise
    refine ⟨⟨fun a ha => h.acceptable a (by simp [ha]), hpairwise.1⟩, h.acceptable action (by simp), ?_⟩
    intro seen hseen
    exact hpairwise.2.2 seen hseen action (by simp)
  · rintro ⟨h, haction, hclash⟩
    refine ⟨fun a ha => ?_, List.pairwise_append.mpr ⟨h.pairwise, by simp, by simpa using hclash⟩⟩
    rcases List.mem_append.mp ha with ha | ha
    · exact h.acceptable a ha
    · rw [List.mem_singleton.mp ha]
      exact haction

/-- Taking an action succeeds exactly if it can be taken and is not refused. -/
theorem take_eq_ok_iff {t t' : Taken α} {action : Action α} :
    p.take t action = .ok t' ↔
      p.Acceptable action ∧ (∀ seen ∈ t.actions, p.clash seen action = false)
        ∧ t' = { t with actions := t.actions ++ [action] } := by
  have hclash : (!p.isDefault action
      && t.actions.any fun seen => !p.isDefault seen && p.exclusive action.1 seen.1) = true
      ↔ ∃ seen ∈ t.actions, p.clash seen action = true := by
    simp only [clash, Bool.and_eq_true, List.any_eq_true, and_assoc]
    exact ⟨fun ⟨h, seen, hmem, hseen⟩ => ⟨seen, hmem, h, hseen⟩,
      fun ⟨seen, hmem, h, hseen⟩ => ⟨h, seen, hmem, hseen⟩⟩
  rw [take]
  split
  · -- the value has another type
    rename_i hany
    obtain ⟨text, htext, hnot⟩ := (Option.any_eq_true _ _).mp hany
    refine ⟨fun h => (by cases h), fun h => ?_⟩
    rw [h.1.accepts text (Option.mem_def.mpr htext)] at hnot
    cases hnot
  rename_i hany
  split
  · -- an earlier action excludes this one
    rename_i hseen
    obtain ⟨seen, hmem, hclashes⟩ := hclash.mp hseen
    refine ⟨fun h => (by cases h), fun h => ?_⟩
    rw [h.2.1 seen hmem] at hclashes
    cases hclashes
  rename_i hseen
  split
  · rename_i hhelp
    exact ⟨fun h => (by cases h), fun h => absurd hhelp h.1.kind⟩
  · rename_i hhelp
    have haccepts : ∀ text ∈ action.2, p.accepts action.1 text = true := by
      intro text htext
      by_contra hnot
      exact hany ((Option.any_eq_true _ _).mpr ⟨text, Option.mem_def.mp htext, by simpa using hnot⟩)
    have hall : ∀ seen ∈ t.actions, p.clash seen action = false := by
      intro seen hmem
      by_contra hnot
      exact hseen (hclash.mpr ⟨seen, hmem, by simpa using hnot⟩)
    exact ⟨fun h => ⟨⟨haccepts, hhelp⟩, hall, (Except.ok.inj h).symm⟩, fun h => by rw [h.2.2]⟩

/-- The first actions of compatible ones. -/
theorem Compatible.left {actions more : List (Action α)} (h : p.Compatible (actions ++ more)) :
    p.Compatible actions :=
  ⟨fun a ha => h.acceptable a (List.mem_append_left _ ha), (List.pairwise_append.mp h.pairwise).1⟩

/-- Taking actions succeeds exactly if all of them are compatible. -/
theorem takeAll_eq_ok_iff {actions : List (Action α)} {t t' : Taken α} (ht : p.Compatible t.actions) :
    p.takeAll t actions = .ok t' ↔
      p.Compatible (t.actions ++ actions) ∧ t' = { t with actions := t.actions ++ actions } := by
  induction actions generalizing t with
  | nil => simp [takeAll, ht, eq_comm]
  | cons action rest ih =>
      have hshift : t.actions ++ action :: rest = (t.actions ++ [action]) ++ rest := by simp
      rw [takeAll, hshift]
      cases htake : p.take t action with
      | error rejection =>
          refine ⟨fun h => (by cases h), fun h => ?_⟩
          -- the action could have been taken
          have hone := compatible_concat.mp h.1.left
          rw [take_eq_ok_iff.mpr ⟨hone.2.1, hone.2.2, rfl⟩] at htake
          cases htake
      | ok t₁ =>
          obtain ⟨haction, hclash, rfl⟩ := take_eq_ok_iff.mp htake
          exact ih (compatible_concat.mpr ⟨ht, haction, hclash⟩)

/-- If exclusion goes both ways, compatible actions are those of which no two exclude each other. -/
theorem compatible_iff (hsymm : ∀ a b, p.exclusive a b = p.exclusive b a)
    (hself : ∀ a, p.exclusive a a = false) {actions : List (Action α)} :
    p.Compatible actions ↔
      (∀ action ∈ actions, p.Acceptable action)
        ∧ ∀ a ∈ actions, ∀ b ∈ actions, p.clash a b = false := by
  constructor
  · intro h
    have hflip : actions.Pairwise (flip fun a b => p.clash a b = false) := by
      refine h.pairwise.imp fun {a b} hab => ?_
      rw [flip, clash, hsymm, Bool.and_comm (!p.isDefault _)]
      exact hab
    refine ⟨h.acceptable, fun a ha b hb => ?_⟩
    exact h.pairwise.forall_of_forall_of_flip (fun a _ => by simp [clash, hself]) hflip ha hb
  · rintro ⟨hacceptable, hclash⟩
    exact ⟨hacceptable, List.pairwise_of_forall_mem_list hclash⟩

/-- Actions whose options do not exclude each other are compatible. -/
theorem compatible_of_exclusive {actions : List (Action α)}
    (hacceptable : ∀ action ∈ actions, p.Acceptable action)
    (h : ∀ a ∈ actions.map Prod.fst, ∀ b ∈ actions.map Prod.fst, p.exclusive a b = false) :
    p.Compatible actions := by
  refine ⟨hacceptable, List.pairwise_of_forall_mem_list fun a ha b hb => ?_⟩
  rw [clash, h _ (List.mem_map_of_mem hb) _ (List.mem_map_of_mem ha), Bool.and_false]

/-- The options of an accepted command line do not exclude each other. -/
theorem compatible_of_consume {tokens : List (Token α)} {t t' : Taken α} (ht : p.Compatible t.actions)
    (h : p.consume t tokens = .ok t') : p.Compatible t'.actions := by
  -- a word that is no option changes no action; the actions of an option are taken
  fun_induction consume p t tokens with
  | case1 t =>
      cases h
      exact ht
  | case2 t word rest ih => exact ih ht h
  | case3 t rest ih => exact ih ht h
  | case4 t word rest ih => exact ih ht h
  | case5 => cases h
  | case6 => cases h
  | case7 t a string explicit rest actions hoption t₁ htake ih =>
      obtain ⟨hcompatible, rfl⟩ := (takeAll_eq_ok_iff ht).mp htake
      exact ih hcompatible h
  | case8 => cases h
  | case9 t a string explicit actions b hoption value rest t₁ htake ih =>
      obtain ⟨hcompatible, rfl⟩ := (takeAll_eq_ok_iff ht).mp htake
      exact ih hcompatible h
  | case10 => cases h

/-- What a parser accepts is compatible. -/
theorem compatible_of_parse {words : List Word} {actions : List (Action α)}
    (h : p.parse words = .ok actions) : p.Compatible actions := by
  rw [parse] at h
  split at h
  · cases h
  split at h
  · cases h
  rename_i t hconsume
  have hcompatible := compatible_of_consume compatible_nil hconsume
  split at h
  · cases h
    exact hcompatible
  · cases h

/-! ## Command lines that are put together -/

/-- A word that is taken as an argument. -/
structure IsArgument (p : Parser α) (word : Word) : Prop where
  /-- It is not `--`. -/
  ne : word ≠ separatorWord
  /-- It is no option. -/
  classify : p.classify word = .ok (.argument word)

/-- An option that is written in one of its ways, with a value exactly if it takes one. -/
structure Plain (p : Parser α) (piece : Piece α) : Prop where
  /-- Options start with a dash. -/
  dash : piece.string.head? = some '-'
  /-- The string is not `--`. -/
  ne : piece.string ≠ separatorWord
  /-- It is one of the strings of the option. -/
  find : p.find piece.string = some piece.a
  /-- Whether there is a value. -/
  kind : p.kind piece.a = .value ↔ piece.value.isSome = true
  /-- A value in a word of its own is taken as an argument. -/
  argument : piece.joined = false → ∀ text ∈ piece.value, p.IsArgument text
  /-- No equals sign is a part of an option string. -/
  equals : piece.joined = true → '=' ∉ piece.string ∧ ∀ entry ∈ p.table, '=' ∉ entry.1

/-- The string of an option. -/
theorem classify_string {string : Word} {a : α} (hdash : string.head? = some '-')
    (hfind : p.find string = some a) : p.classify string = .ok (.option a string none) := by
  rw [classify, if_neg (by simp [hdash]), hfind]

/-- A word of a command line before the others. -/
theorem tokens_cons {word : Word} {rest : List Word} {token : Token α} {more : List (Token α)}
    (hne : word ≠ separatorWord) (hclassify : p.classify word = .ok token)
    (hrest : p.tokens rest = .ok more) : p.tokens (word :: rest) = .ok (token :: more) := by
  rw [tokens, if_neg hne, hclassify, hrest]

/-- The texts around the first equals sign. -/
theorem splitEquals_append {string : Word} (h : '=' ∉ string) (text : Word) :
    splitEquals (string ++ '=' :: text) = some (string, text) := by
  have hall : ∀ c ∈ string, decide (c ≠ '=') = true := by
    intro c hc
    rw [decide_eq_true_iff]
    rintro rfl
    exact h hc
  rw [splitEquals, if_pos (by simp), upTo, List.takeWhile_append_of_pos hall,
    List.dropWhile_append_of_pos hall]
  simp

/-- An option with a value behind an equals sign. -/
theorem classify_joined {string text : Word} {a : α} (hdash : string.head? = some '-')
    (hfind : p.find string = some a) (hstring : '=' ∉ string) (htable : ∀ entry ∈ p.table, '=' ∉ entry.1) :
    p.classify (string ++ '=' :: text) = .ok (.option a string (some text)) := by
  have hnone : p.find (string ++ '=' :: text) = none := by
    rw [find, List.lookup_eq_none_iff]
    intro entry hentry
    rw [bne_iff_ne]
    intro heq
    refine htable entry hentry ?_
    rw [← heq]
    simp
  have hhead : (string ++ '=' :: text).head? = some '-' := by
    rw [List.head?_append, hdash]
    rfl
  have hne : string ++ '=' :: text ≠ ['-'] := by
    intro heq
    have hmem : '=' ∈ string ++ '=' :: text := by simp
    rw [heq] at hmem
    exact absurd hmem (by decide)
  have hbefore : p.findBeforeEquals (string ++ '=' :: text) = some (a, string, text) := by
    rw [findBeforeEquals, splitEquals_append hstring]
    simp [hfind]
  rw [classify, if_neg (by simp [hhead]), hnone]
  dsimp only
  rw [if_neg hne, hbefore]

/-- Plain pieces are tokenized one after the other. -/
theorem tokens_pieces {pieces : List (Piece α)} (h : ∀ piece ∈ pieces, p.Plain piece) :
    p.tokens (pieces.flatMap Piece.words) = .ok (pieces.flatMap Piece.tokens) := by
  induction pieces with
  | nil => rfl
  | cons piece rest ih =>
      have hplain := h piece (by simp)
      have hrest := ih fun other hother => h other (by simp [hother])
      have hstring := classify_string hplain.dash hplain.find
      rw [List.flatMap_cons, List.flatMap_cons, Piece.words, Piece.tokens]
      cases hvalue : piece.value with
      | none => exact tokens_cons hplain.ne hstring hrest
      | some text =>
          cases hjoined : piece.joined with
          | false =>
              have hargument := hplain.argument hjoined text hvalue
              exact tokens_cons hplain.ne hstring (tokens_cons hargument.ne hargument.classify hrest)
          | true =>
              obtain ⟨hequals, htable⟩ := hplain.equals hjoined
              refine tokens_cons ?_ (classify_joined hplain.dash hplain.find hequals htable) hrest
              intro heq
              have hmem : '=' ∈ piece.string ++ '=' :: text := by simp
              rw [heq] at hmem
              exact absurd hmem (by decide)

/-- An option in front of other words is taken. -/
theorem consume_piece {piece : Piece α} (hplain : p.Plain piece) (t : Taken α) (rest : List (Token α)) :
    p.consume t (piece.tokens ++ rest) =
      match p.take t piece.action with
      | .error rejection => .error rejection
      | .ok t' => p.consume t' rest := by
  have hone : p.takeAll t [piece.action] = p.take t piece.action := by
    rw [takeAll]
    cases p.take t piece.action <;> rfl
  rw [← hone, Piece.tokens, Piece.action]
  cases hvalue : piece.value with
  | none =>
      have hkind : p.kind piece.a ≠ .value := by simp [hplain.kind, hvalue]
      have hoption : p.consumeOption piece.a piece.string none = .ok ([(piece.a, none)], none) := by
        simp [consumeOption, pending, hkind]
      simp only [List.cons_append, List.nil_append, consume, hoption]
  | some text =>
      have hkind : p.kind piece.a = .value := by simp [hplain.kind, hvalue]
      cases piece.joined with
      | false =>
          have hoption : p.consumeOption piece.a piece.string none = .ok ([], some piece.a) := by
            simp [consumeOption, pending, hkind]
          simp only [Bool.false_eq_true, if_false, List.cons_append, List.nil_append, consume, hoption]
      | true =>
          have hoption : p.consumeOption piece.a piece.string (some text)
              = .ok ([(piece.a, some text)], none) := by
            cases text <;> simp [consumeOption, cluster, hkind]
          simp only [if_true, List.cons_append, List.nil_append, consume, hoption]

/-- The options are taken one after the other. -/
theorem consume_pieces {pieces : List (Piece α)} (h : ∀ piece ∈ pieces, p.Plain piece) (t : Taken α) :
    p.consume t (pieces.flatMap Piece.tokens) = p.takeAll t (pieces.map Piece.action) := by
  induction pieces generalizing t with
  | nil => rfl
  | cons piece rest ih =>
      rw [List.flatMap_cons, consume_piece (h piece (by simp)), List.map_cons, takeAll]
      cases p.take t piece.action with
      | error rejection => rfl
      | ok t' => exact ih (fun other hother => h other (by simp [hother])) t'

/-- A command line put together from options is accepted exactly if they do not exclude each other, and
is then read back. -/
theorem parse_pieces {pieces : List (Piece α)} (h : ∀ piece ∈ pieces, p.Plain piece)
    {actions : List (Action α)} :
    p.parse (pieces.flatMap Piece.words) = .ok actions ↔
      p.Compatible (pieces.map Piece.action) ∧ actions = pieces.map Piece.action := by
  have hiff : ∀ t', p.takeAll {} (pieces.map Piece.action) = .ok t' ↔
      p.Compatible ([] ++ pieces.map Piece.action)
        ∧ t' = { actions := [] ++ pieces.map Piece.action, extras := [] } :=
    fun _ => takeAll_eq_ok_iff compatible_nil
  rw [parse, tokens_pieces h]
  dsimp only
  rw [consume_pieces h]
  cases htake : p.takeAll {} (pieces.map Piece.action) with
  | error rejection =>
      refine ⟨fun hok => (by cases hok), fun hcompatible => ?_⟩
      rw [(hiff _).mpr ⟨by simpa using hcompatible.1, rfl⟩] at htake
      cases htake
  | ok t =>
      obtain ⟨hcompatible, rfl⟩ := (hiff t).mp htake
      simp only [List.nil_append] at hcompatible ⊢
      constructor
      · intro hok
        exact ⟨hcompatible, (Except.ok.inj hok).symm⟩
      · rintro ⟨-, rfl⟩
        rfl

/-- A word that is taken as an argument is that argument. -/
theorem eq_of_classify_argument {word argument : Word}
    (h : p.classify word = .ok (.argument argument)) : argument = word := by
  unfold classify at h
  split at h
  · cases h
    rfl
  split at h
  · cases h
  split at h
  · cases h
    rfl
  split at h
  · cases h
  split at h
  · cases h
  · split at h
    · cases h
      rfl
    · cases h
  · cases h

/-- The first token of a command line whose first word is not taken as an argument. -/
theorem tokens_of_not_isArgument {word : Word} (hword : ¬ p.IsArgument word) {rest : List Word}
    {found : List (Token α)} (h : p.tokens (word :: rest) = .ok found) :
    ∃ token more, found = token :: more ∧ ∀ argument, token ≠ .argument argument := by
  rw [tokens] at h
  split at h
  · cases h
    exact ⟨_, _, rfl, fun _ heq => (by cases heq)⟩
  rename_i hne
  split at h
  · rename_i token more hclassify htokens
    cases h
    refine ⟨token, more, rfl, ?_⟩
    rintro argument rfl
    rw [eq_of_classify_argument hclassify] at hclassify
    exact hword ⟨hne, hclassify⟩
  · cases h

/-- An option that takes a value is rejected if the word behind it is not taken as an argument. -/
theorem parse_value_error {a : α} {string word : Word} (hdash : string.head? = some '-')
    (hne : string ≠ separatorWord) (hfind : p.find string = some a) (hkind : p.kind a = .value)
    (hword : ¬ p.IsArgument word) (rest : List Word) :
    p.parse (string :: word :: rest) = .error .usage := by
  rw [parse, tokens, if_neg hne, classify_string hdash hfind]
  cases htokens : p.tokens (word :: rest) with
  | error rejection => rfl
  | ok found =>
      obtain ⟨token, more, rfl, htoken⟩ := tokens_of_not_isArgument hword htokens
      have hpending : p.consumeOption a string none = .ok ([], some a) := by
        simp [consumeOption, pending, hkind]
      have hconsume : p.consume {} (.option a string none :: token :: more) = .error .usage := by
        rw [consume, hpending]
        cases token with
        | argument argument => exact absurd rfl (htoken argument)
        | option b text explicit => rfl
        | unknown text => rfl
        | separator => rfl
      dsimp only
      rw [hconsume]

/-- A word that does not start with a dash is taken as an argument. -/
theorem isArgument_of_head {word : Word} (h : word.head? ≠ some '-') : p.IsArgument word := by
  refine ⟨?_, by rw [classify, if_pos h]⟩
  rintro rfl
  exact h rfl

end Parser

/-! ## What was read -/

section Namespace

variable {α : Type} [DecidableEq α]

/-- Whether an option was given. -/
def isGiven (actions : List (Action α)) (a : α) : Bool := actions.any fun action => action.1 = a

/-- The value of an option: the last one counts. -/
def lastValue (actions : List (Action α)) (a : α) : Option Word :=
  (actions.reverse.find? fun action => action.1 = a).bind Prod.snd

/-- An option is given in one of two parts. -/
@[simp] theorem isGiven_append (first second : List (Action α)) (a : α) :
    isGiven (first ++ second) a = (isGiven first a || isGiven second a) := List.any_append

/-- The option of an action is given. -/
theorem isGiven_of_mem {actions : List (Action α)} {action : Action α} (h : action ∈ actions) :
    isGiven actions action.1 = true := List.any_eq_true.mpr ⟨action, h, by simp⟩

/-- An option that is given has an action. -/
theorem exists_of_isGiven {actions : List (Action α)} {a : α} (h : isGiven actions a = true) :
    ∃ action ∈ actions, action.1 = a := by
  simpa [isGiven] using h

/-- An option that is not given again. -/
theorem lastValue_cons {rest : List (Action α)} {a : α} (h : isGiven rest a = false)
    (value : Option Word) : lastValue ((a, value) :: rest) a = value := by
  have hnone : (rest.reverse.find? fun action => action.1 = a) = none := by
    rw [List.find?_eq_none]
    intro action hmem heq
    rw [← of_decide_eq_true heq, isGiven_of_mem (List.mem_reverse.mp hmem)] at h
    cases h
  rw [lastValue, List.reverse_cons, List.find?_append, hnone]
  simp

end Namespace

end ArgumentParser

end QubesAdminLinux
