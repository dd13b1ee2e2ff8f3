import Mathlib.Algebra.Order.Field.Rat
import Mathlib.Data.Nat.Digits.Defs
import QubesAdminLinux.Lib.Binary64

/-! # Text and number literals

Operations of a scripting language on characters, bytes and numbers, as structurally recursive
functions on lists: reading a byte stream line by line, splitting text into lines and words, and
parsing a floating-point literal.

* **`readLines`** — the lines of a byte stream, each with its newline, the last one possibly without.
* **`splitByteLines`, `splitLines`, `splitNewlines`, `words`** — `bytes.splitlines()`,
  `str.splitlines()`, `str.split("\n")` and `str.split()`.
* **`pathJoin`, `baseName`** — path manipulation as in `os.path`.
* **`reprText`, `reprTexts`, `reprBytes`** — `repr` of a text, of a list of texts and of a byte string;
  **`encodeAscii`** — the bytes of an ASCII text; **`slice`** — `text[a:-b]`.
* **`removeThrough`, `upTo`, `replaceChar`, `fields`, `Glob`** — the expansions and patterns of a shell.
* **`PyFloat.ofText`, `PyFloat.intOfText?`** — the number that a literal stands for. -/

namespace QubesAdminLinux

/-- A byte string. -/
abbrev Bytes := List UInt8

/-- Put `b` in front of the first line of a stream, opening one if there is none. -/
def consFirstLine (b : UInt8) : List Bytes → List Bytes
  | [] => [[b]]
  | line :: rest => (b :: line) :: rest

/-- The results of calling `readline` on a byte stream until it is exhausted. -/
def readLines : Bytes → List Bytes
  | [] => []
  | b :: rest => if b = 10 then [b] :: readLines rest else consFirstLine b (readLines rest)

/-- `bytes.splitlines` with the current line accumulated in reverse; `afterReturn` says that the last
line has just ended with a carriage return. -/
def splitByteLinesFrom (afterReturn : Bool) (current : Bytes) : Bytes → List Bytes
  | [] => if current.isEmpty then [] else [current.reverse]
  | b :: rest =>
      if b = 0x0a then
        -- a carriage return with its newline is one line end
        if afterReturn then splitByteLinesFrom false [] rest
        else current.reverse :: splitByteLinesFrom false [] rest
      else if b = 0x0d then current.reverse :: splitByteLinesFrom true [] rest
      else splitByteLinesFrom false (b :: current) rest

/-- The lines of a byte string, without their line ends. -/
def splitByteLines (bytes : Bytes) : List Bytes := splitByteLinesFrom false [] bytes

/-- Characters at which `str.splitlines` cuts. -/
def isLineBreak (c : Char) : Bool :=
  c = '\n' || c = '\r' || c.toNat = 0x0b || c.toNat = 0x0c || c.toNat = 0x1c || c.toNat = 0x1d
    || c.toNat = 0x1e || c.toNat = 0x85 || c.toNat = 0x2028 || c.toNat = 0x2029

/-- The line accumulated so far, unless it is empty at the end of the text. -/
def lastLine (current : List Char) : List (List Char) :=
  if current.isEmpty then [] else [current.reverse]

/-- `str.splitlines` with the current line accumulated in reverse. -/
def splitLinesFrom (current : List Char) : List Char → List (List Char)
  | [] => lastLine current
  -- a carriage return with its newline is one line end
  | '\r' :: '\n' :: rest => current.reverse :: splitLinesFrom [] rest
  | c :: rest =>
      if isLineBreak c then current.reverse :: splitLinesFrom [] rest
      else splitLinesFrom (c :: current) rest

/-- The lines of a text, without their line ends. -/
def splitLines (text : String) : List String :=
  (splitLinesFrom [] text.toList).map String.ofList

/-- `text.split("\n")`: the pieces between newlines, one more than there are newlines. -/
def splitNewlines (text : String) : List String :=
  (text.toList.splitOn '\n').map String.ofList

/-- Characters that `str.isspace` counts as white space. -/
def isSpace (c : Char) : Bool :=
  c = ' ' || (0x09 ≤ c.toNat && c.toNat ≤ 0x0d) || (0x1c ≤ c.toNat && c.toNat ≤ 0x1f)
    || c.toNat = 0x85 || c.toNat = 0xa0 || c.toNat = 0x1680
    || (0x2000 ≤ c.toNat && c.toNat ≤ 0x200a) || c.toNat = 0x2028 || c.toNat = 0x2029
    || c.toNat = 0x202f || c.toNat = 0x205f || c.toNat = 0x3000

/-- `str.split` with the current word accumulated in reverse. -/
def wordsFrom (current : List Char) : List Char → List (List Char)
  | [] => lastLine current
  | c :: rest =>
      if isSpace c then lastLine current ++ wordsFrom [] rest else wordsFrom (c :: current) rest

/-- The words of a text: its maximal runs without white space. -/
def words (text : String) : List String := (wordsFrom [] text.toList).map String.ofList

/-- Text without leading and trailing white space. -/
def strip (text : List Char) : List Char :=
  ((text.dropWhile isSpace).reverse.dropWhile isSpace).reverse

/-- `text.startswith(start)`. -/
def startsWith (text start : String) : Bool := start.toList.isPrefixOf text.toList

/-- `text.split(separator)` for a one-character separator. -/
def splitOnChar (separator : Char) (text : String) : List String :=
  (text.toList.splitOn separator).map String.ofList

/-- `os.path.join(dir, name)`. -/
def pathJoin (dir name : String) : String :=
  -- an absolute second part replaces the first
  if startsWith name "/" then name
  else if dir = "" || dir.toList.getLast? = some '/' then dir ++ name
  else dir ++ "/" ++ name

/-- `os.path.basename(path.strip("/"))`. -/
def baseName (path : String) : String :=
  let trimmed := (path.toList.reverse.dropWhile (· = '/'))
  String.ofList (trimmed.takeWhile (· ≠ '/')).reverse

/-- A single quote. -/
def singleQuote : Char := Char.ofNat 0x27

/-- A double quote. -/
def doubleQuote : Char := Char.ofNat 0x22

/-- A backslash. -/
def backslash : Char := Char.ofNat 0x5c

/-- A character as it stands in the `repr` of a printable text quoted by `quote`. -/
def escapeChar (quote c : Char) : List Char :=
  if c = backslash ∨ c = quote then [backslash, c] else [c]

/-- `repr(text)` for a text of printable characters. -/
def reprText (text : String) : String :=
  -- double quotes only for a text that has single quotes and no double ones
  let quote :=
    if singleQuote ∈ text.toList ∧ doubleQuote ∉ text.toList then doubleQuote else singleQuote
  String.ofList (quote :: text.toList.flatMap (escapeChar quote) ++ [quote])

/-- `repr(texts)` for a list of texts. -/
def reprTexts (texts : List String) : String := "[" ++ ", ".intercalate (texts.map reprText) ++ "]"

/-- A hexadecimal digit. -/
def hexDigit (n : Nat) : Char :=
  if n < 10 then Char.ofNat ('0'.toNat + n) else Char.ofNat ('a'.toNat + (n - 10))

/-- A byte as it stands in the `repr` of a byte string quoted by `quote`. -/
def escapeByte (quote : Char) (b : UInt8) : List Char :=
  let c := Char.ofNat b.toNat
  if c = backslash ∨ c = quote then [backslash, c]
  else if c = '\n' then [backslash, 'n']
  else if c = '\r' then [backslash, 'r']
  else if c = '\t' then [backslash, 't']
  else if 0x20 ≤ b.toNat ∧ b.toNat ≤ 0x7e then [c]
  else [backslash, 'x', hexDigit (b.toNat / 16), hexDigit (b.toNat % 16)]

/-- `repr(bytes)`. -/
def reprBytes (bytes : Bytes) : String :=
  let quote :=
    if UInt8.ofNat singleQuote.toNat ∈ bytes ∧ UInt8.ofNat doubleQuote.toNat ∉ bytes
    then doubleQuote else singleQuote
  String.ofList ('b' :: quote :: bytes.flatMap (escapeByte quote) ++ [quote])

/-- `text.encode("ascii")` for an ASCII text. -/
def encodeAscii (text : String) : Bytes := text.toList.map fun c => UInt8.ofNat c.toNat

/-- `${text#*c}`: the text after the first `c`, or all of it if there is none. -/
def removeThrough (c : Char) (text : List Char) : List Char :=
  if c ∈ text then (text.dropWhile (· ≠ c)).tail else text

/-- `${text%%c*}`: the text up to the first `c`. -/
def upTo (c : Char) (text : List Char) : List Char := text.takeWhile (· ≠ c)

/-- `${text//c/d}`. -/
def replaceChar (c d : Char) (text : List Char) : List Char :=
  text.map fun x => if x = c then d else x

/-- `printf "%02x"`; a negative number is printed as its two's complement. -/
def printHex (n : Int) : List Char :=
  let digits := (Nat.digits 16 (n % 2 ^ 64).toNat).reverse.map hexDigit
  List.replicate (2 - digits.length) '0' ++ digits

/-- The words into which the value of an unquoted variable is split. -/
def fields (text : String) : List String :=
  ((text.toList.splitOnP fun c => c = ' ' || c = '\t' || c = '\n').filter (· ≠ [])).map String.ofList

/-- A part of a pattern. -/
inductive Glob
  /-- `*`. -/
  | star
  /-- One character of a kind. -/
  | one (p : Char → Bool)

/-- Whether a text matches a pattern. -/
def globMatches : List Glob → List Char → Bool
  | [], text => text.isEmpty
  | .star :: rest, text => text.tails.any fun suffix => globMatches rest suffix
  | .one _ :: _, [] => false
  | .one p :: rest, c :: text => p c && globMatches rest text

/-- What follows a character is shorter by this character. -/
theorem count_removeThrough_lt {c : Char} {text : List Char} (h : c ∈ text) :
    (removeThrough c text).count c < text.count c := by
  rw [removeThrough, if_pos h]
  induction text with
  | nil => cases h
  | cons d rest ih =>
      by_cases hd : d = c
      · simp [hd]
      · have hrest : c ∈ rest := by simpa [Ne.symm hd] using h
        simpa [hd] using ih hrest

/-- What follows a character is a part of the text. -/
theorem removeThrough_sublist (c : Char) (text : List Char) :
    (removeThrough c text).Sublist text := by
  rw [removeThrough]
  split
  · exact (List.tail_sublist _).trans (List.dropWhile_sublist _)
  · exact List.Sublist.refl text

/-- There are only digits in a printed number. -/
theorem minus_notMem_printHex (n : Int) : '-' ∉ printHex n := by
  have hdigit : ∀ d < 16, hexDigit d ≠ '-' := by decide
  rw [printHex, List.mem_append, not_or]
  refine ⟨fun h => ?_, fun h => ?_⟩
  · cases List.eq_of_mem_replicate h
  · obtain ⟨d, hd, hminus⟩ := List.mem_map.mp h
    exact hdigit d (Nat.digits_lt_base (by decide) (List.mem_reverse.mp hd)) hminus

/-- `text[first:-last]`. -/
def slice (first last : Nat) (text : String) : String :=
  String.ofList ((text.toList.take (text.length - last)).drop first)

/-! ## Numbers -/

namespace PyFloat

/-- The characters of value zero among the decimal digits of the scripts of Unicode 15. -/
def zeroDigits : List Nat :=
  [0x30, 0x660, 0x6f0, 0x7c0, 0x966, 0x9e6, 0xa66, 0xae6, 0xb66, 0xbe6, 0xc66, 0xce6, 0xd66, 0xde6,
    0xe50, 0xed0, 0xf20, 0x1040, 0x1090, 0x17e0, 0x1810, 0x1946, 0x19d0, 0x1a80, 0x1a90, 0x1b50, 0x1bb0,
    0x1c40, 0x1c50, 0xa620, 0xa8d0, 0xa900, 0xa9d0, 0xa9f0, 0xaa50, 0xabf0, 0xff10, 0x104a0, 0x10d30,
    0x11066, 0x110f0, 0x11136, 0x111d0, 0x112f0, 0x11450, 0x114d0, 0x11650, 0x116c0, 0x11730, 0x118e0,
    0x11950, 0x11c50, 0x11d50, 0x11da0, 0x11f50, 0x16a60, 0x16ac0, 0x16b50, 0x1d7ce, 0x1d7d8, 0x1d7e2,
    0x1d7ec, 0x1d7f6, 0x1e140, 0x1e2f0, 0x1e4f0, 0x1e950, 0x1fbf0]

/-- The value of a decimal digit. -/
def digit? (c : Char) : Option Nat :=
  (zeroDigits.find? fun first => first ≤ c.toNat && c.toNat ≤ first + 9).map fun first => c.toNat - first

/-- The longest run of digits, single underscores allowed between two digits, and what follows it.
`afterDigit` tells whether the character before was a digit. -/
def digitPart (afterDigit : Bool) : List Char → List Nat × List Char
  | [] => ([], [])
  | c :: rest =>
      match digit? c with
      | some d => (d :: (digitPart true rest).1, (digitPart true rest).2)
      | none =>
          if c = '_' && afterDigit && (rest.head?.bind digit?).isSome then digitPart false rest
          else ([], c :: rest)

/-- The fraction digits after a decimal point, if there is one, and what follows. -/
def fractionPart : List Char → List Nat × List Char
  | '.' :: rest => digitPart false rest
  | rest => ([], rest)

/-- Split a sign off; the flag is set for a minus. -/
def signPart : List Char → Bool × List Char
  | '-' :: rest => (true, rest)
  | '+' :: rest => (false, rest)
  | rest => (false, rest)

/-- The exponent that must make up the whole of a text; the empty text is exponent `0`. -/
def exponent? : List Char → Option ℤ
  | [] => some 0
  | c :: rest =>
      if c = 'e' || c = 'E' then
        match digitPart false (signPart rest).2 with
        | ([], _) => none
        | (ds, []) =>
            some ((if (signPart rest).1 then -1 else 1) * (Nat.ofDigits 10 ds.reverse : ℕ))
        | (_, _ :: _) => none
      else none

/-- An unsigned number literal, with the sign to give it. -/
def unsigned? (negative : Bool) (l : List Char) : Option PyFloat :=
  let lower := l.map Char.toLower
  if lower = "inf".toList || lower = "infinity".toList then some (.inf negative)
  else if lower = "nan".toList then some .nan
  else
    let int := digitPart false l
    let frac := fractionPart int.2
    -- a lone point is not a number
    if int.1.isEmpty && frac.1.isEmpty then none
    else
      (exponent? frac.2).map fun (e : ℤ) =>
        .ofRat ((if negative then -1 else 1) * (Nat.ofDigits 10 (int.1 ++ frac.1).reverse : ℕ)
          * (10 : ℚ) ^ (e - frac.1.length))

/-- `float(text)`: the number nearest to the one written in `text`, or `none` where the call raises. -/
def ofText (text : String) : Option PyFloat :=
  let signed := signPart (strip text.toList)
  unsigned? signed.1 signed.2

/-- `int(text)` for a decimal literal, or `none` where the call raises. -/
def intOfText? (text : String) : Option Int :=
  let signed := signPart (strip text.toList)
  match digitPart false signed.2 with
  | ([], _) => none
  | (ds, []) => some ((if signed.1 then -1 else 1) * (Nat.ofDigits 10 ds.reverse : ℕ))
  | (_, _ :: _) => none

example : ofText " 1_0.50e1 " = some (.finite 105) := by decide +kernel

example : ofText "100.000000000000001" = some (.finite 100) := by decide +kernel

end PyFloat

end QubesAdminLinux
