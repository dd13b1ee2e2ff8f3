import QubesAdminLinux.Lib.Dict
import QubesAdminLinux.Lib.StringLiterals
import QubesAdminLinux.Lib.TextLines

/-! # The description of the operating system

The agent reads `os-release` line by line.  A value in quotes is read as a literal of Python, although
the file follows the rules of a shell.

* **`literalEval`** — the literal reader, for texts that start with a quote.
* **`readLine`, `loadOsRelease`** — one line, and the first file that can be read.
* **`getOsData`** — what the agent makes of it; **`getOsData_redHat_iff`** — for which files it is the
  family of Red Hat.
* **`Specified`** — what a line says by the rules of the file; **`ParsedAsSpecified`** — all lines are
  read so.
* **`parsedAsSpecified_iff`** — this holds exactly for files whose values are plain, or in double quotes
  without dollar signs, backquotes and null characters. -/

namespace QubesAdminLinux

namespace OsRelease

/-! ## Literals -/

/-- What `ast.literal_eval` raises for a text. -/
inductive LiteralError
  | valueError
  | typeError
  | syntaxError
  | memoryError
  | recursionError
  deriving DecidableEq, Repr

/-- A literal that starts with a quote. -/
inductive LiteralValue
  /-- A text. -/
  | str (text : String)
  /-- Several literals with commas between them, given by their `repr`. -/
  | tuple (repr : String)
  deriving DecidableEq, Repr

/-- The null character. -/
def nul : Char := Char.ofNat 0

/-- A literal reader for all texts but string literals of one line with short escapes only. -/
abbrev GeneralLiteral := List Char → Except LiteralError LiteralValue

/-- `ast.literal_eval`, for a text that starts with a quote. -/
def literalEval (general : GeneralLiteral) (text : List Char) : Except LiteralError LiteralValue :=
  -- the source code of a literal has no null characters
  if nul ∈ text then .error .syntaxError
  else
    match text with
    | [] => general []
    | quote :: rest =>
        match literalBody? quote rest with
        | some value => .ok (.str (String.ofList value))
        | none => general (quote :: rest)

/-! ## Lines -/

/-- `[A-Z]`. -/
def isUpper (c : Char) : Bool := 'A'.toNat ≤ c.toNat && c.toNat ≤ 'Z'.toNat

/-- `[A-Z_0-9]`. -/
def isKeyChar (c : Char) : Bool :=
  isUpper c || c = '_' || ('0'.toNat ≤ c.toNat && c.toNat ≤ '9'.toNat)

/-- `[A-Z][A-Z_0-9]+`. -/
def IsKey (key : List Char) : Prop :=
  key.head?.any isUpper = true ∧ 2 ≤ key.length ∧ ∀ c ∈ key, isKeyChar c = true

/-- `re.match(r"([A-Z][A-Z_0-9]+)=(.*)", line)`: no character of the key is an equals sign, so the key is
all that comes before the first other character. -/
def assignment? (line : List Char) : Option (List Char × List Char) :=
  let key := line.takeWhile isKeyChar
  match line.dropWhile isKeyChar with
  | [] => none
  | c :: val => if c = '=' ∧ key.head?.any isUpper ∧ 2 ≤ key.length then some (key, val) else none

/-- What becomes of a line. -/
inductive LineAction
  /-- It is ignored. -/
  | skipped
  /-- `result[key] = val`. -/
  | assigned (key : String) (value : LiteralValue)
  /-- It is an error in the file. -/
  | logged
  /-- An exception leaves the loop. -/
  | raised (exc : LiteralError)
  deriving DecidableEq

/-- The body of the loop over the lines. -/
def readLine (general : GeneralLiteral) (line : List Char) : LineAction :=
  let line := rstrip line
  if line = [] ∨ line.head? = some '#' then .skipped
  else
    match assignment? line with
    | none => .logged
    | some (key, val) =>
        if val.head? = some doubleQuote ∨ val.head? = some singleQuote then
          match literalEval general val with
          | .ok value => .assigned (String.ofList key) value
          | .error exc => .raised exc
        else .assigned (String.ofList key) (.str (String.ofList val))

/-! ## Files -/

/-- What has been read and logged. -/
structure Loading where
  /-- `result`. -/
  result : Dict String LiteralValue := Dict.empty
  /-- The messages of the logger, if there is one. -/
  log : List String := []

/-- Log a message. -/
def Loading.write (st : Loading) (logger : Bool) (message : String) : Loading :=
  if logger then { st with log := st.log ++ [message] } else st

/-- The message about a line. -/
def parsingError (filename : String) (lineNumber : Nat) (line : List Char) : String :=
  s!"{filename}:{lineNumber}: error in parsing: {String.ofList (rstrip line)}"

/-- The loop over the lines of a file. -/
def loadLines (general : GeneralLiteral) (logger : Bool) (filename : String) :
    Nat → List (List Char) → Loading → Loading × Option LiteralError
  | _, [], st => (st, none)
  | n, line :: rest, st =>
      match readLine general line with
      | .skipped => loadLines general logger filename (n + 1) rest st
      | .assigned key value =>
          loadLines general logger filename (n + 1) rest { st with result := st.result.set key value }
      | .logged =>
          loadLines general logger filename (n + 1) rest
            (st.write logger (parsingError filename n line))
      | .raised exc => (st, some exc)

/-- The loop over the files, up to the first one that can be read. -/
def loadFiles (general : GeneralLiteral) (logger : Bool) (read : String → Except String (List Char)) :
    List String → Loading → Loading × Option LiteralError
  | [], st => (st, none)
  | filename :: rest, st =>
      match read filename with
      | .ok content => loadLines general logger filename 0 (fileLines content) st
      | .error exc =>
          loadFiles general logger read rest
            (st.write logger s!"Could not read file {filename}: {exc}")

/-- What `_load_os_release` raises. -/
inductive LoadError
  /-- `ast.literal_eval` raises. -/
  | literal (exc : LiteralError)
  /-- `IOError`. -/
  | ioError (message : String)
  deriving DecidableEq, Repr

/-- The end of `_load_os_release`. -/
def finishLoading (st : Loading) : Except LoadError (Dict String LiteralValue) :=
  if st.result.isEmpty then .error (.ioError "Failed to read os-release file") else .ok st.result

/-- `_load_os_release`: its messages, and what it returns or raises. -/
def loadOsRelease (general : GeneralLiteral) (logger : Bool)
    (read : String → Except String (List Char)) (osReleaseFiles : List String) :
    List String × Except LoadError (Dict String LiteralValue) :=
  let loaded := loadFiles general logger read osReleaseFiles {}
  match loaded.2 with
  | some exc => (loaded.1.log, .error (.literal exc))
  | none => (loaded.1.log, finishLoading loaded.1)

/-! ## What the agent makes of it -/

/-- What `get_os_data` raises. -/
inductive OsDataError
  /-- The file cannot be loaded. -/
  | load (exc : LoadError)
  /-- A tuple has no `strip` and no `split`. -/
  | attributeError
  deriving DecidableEq, Repr

/-- The dictionary of `get_os_data`. -/
structure OsData where
  /-- `"linux"` or a lower-case name of the system. -/
  id : String
  /-- The name of the system. -/
  name : String
  /-- Its code name. -/
  codename : Option LiteralValue := none
  /-- Its version. -/
  release : Option LiteralValue := none
  /-- `"Unknown"`, `"Debian"`, `"RedHat"`, `"Qubes"` or `"ArchLinux"`. -/
  osFamily : String
  deriving DecidableEq, Repr

/-- The characters of a value whose attributes are those of a text. -/
def LiteralValue.chars : LiteralValue → Except OsDataError (List Char)
  | .str text => .ok text.toList
  | .tuple _ => .error .attributeError

/-- `os_release.get(key, default)`. -/
def getValue (osRelease : Dict String LiteralValue) (key default : String) : LiteralValue :=
  (osRelease.get? key).getD (.str default)

/-- The family of a system; a later test overrides the earlier ones. -/
def osFamily (family : List LiteralValue) : String :=
  let osFamily := "Unknown"
  let osFamily := if .str "debian" ∈ family then "Debian" else osFamily
  let osFamily := if .str "rhel" ∈ family ∨ .str "fedora" ∈ family then "RedHat" else osFamily
  -- plugins usually do not apply to dom0
  let osFamily := if .str "qubes" ∈ family then "Qubes" else osFamily
  if .str "arch" ∈ family then "ArchLinux" else osFamily

/-- `get_os_data`. -/
def getOsData (general : GeneralLiteral) (logger : Bool) (read : String → Except String (List Char)) :
    Except OsDataError OsData := do
  let osRelease ← (loadOsRelease general logger read
    ["/etc/os-release", "/usr/lib/os-release"]).2.mapError OsDataError.load
  let id ← (getValue osRelease "ID" "linux").chars
  let name ← (getValue osRelease "NAME" "Linux").chars
  let idLike ← (getValue osRelease "ID_LIKE" "").chars
  let family := getValue osRelease "ID" "linux"
    :: ((idLike.splitOnP isSpace).filter (· ≠ [])).map fun word => .str (String.ofList word)
  .ok {
    id := String.ofList (rstrip (id.dropWhile isSpace))
    name := String.ofList (rstrip (name.dropWhile isSpace))
    codename := osRelease.get? "VERSION_CODENAME"
    release := osRelease.get? "VERSION_ID"
    osFamily := osFamily family }

/-! ## What a line says -/

/-- The characters that a value without quotes must not have; quotes are among them. -/
structure SpecialCharacters where
  /-- Whether a character is special. -/
  isSpecial : Char → Bool
  /-- A double quote is. -/
  double : isSpecial doubleQuote = true
  /-- A single quote is. -/
  single : isSpecial singleQuote = true

section Lines

variable (special : SpecialCharacters)

/-- A line that is blank, a comment or an assignment of a plain text or of a text in double quotes. -/
inductive Proper (line : List Char) : LineAction → Prop
  | blank (h : rstrip line = []) : Proper line .skipped
  | comment (h : (rstrip line).head? = some '#') : Proper line .skipped
  | plain {key value : List Char} (hkey : IsKey key)
      (hvalue : ∀ c ∈ value, special.isSpecial c = false)
      (hline : rstrip line = key ++ '=' :: value) :
      Proper line (.assigned (String.ofList key) (.str (String.ofList value)))
  | quoted {key value : List Char} (hkey : IsKey key)
      (hline : rstrip line = key ++ '=' :: quoteDouble value) :
      Proper line (.assigned (String.ofList key) (.str (String.ofList value)))

/-- What becomes of a line by the rules of the file: every other line is an error. -/
def Specified (line : List Char) (action : LineAction) : Prop :=
  Proper special line action ∨ (∀ proper, ¬ Proper special line proper) ∧ action = .logged

/-- The value of an assignment is plain, or a text in double quotes without dollar signs, backquotes and
null characters. -/
def SafeValue (line : List Char) : Prop :=
  ∀ key val, IsKey key → rstrip line = key ++ '=' :: val →
    (∀ c ∈ val, special.isSpecial c = false) ∨
      ∃ text, val = quoteDouble text ∧ ∀ c ∈ text, c ≠ '$' ∧ c ≠ backquote ∧ c ≠ nul

variable {special} {general : GeneralLiteral} {line key val : List Char}

/-- The key of an assignment is what comes before the first equals sign. -/
theorem assignment?_eq_some : assignment? line = some (key, val) ↔ IsKey key ∧ line = key ++ '=' :: val := by
  constructor
  · intro h
    rw [assignment?] at h
    split at h
    · cases h
    · rename_i c rest hrest
      split at h
      · rename_i hkey
        obtain ⟨rfl, hupper, hlength⟩ := hkey
        rw [Option.some.injEq, Prod.mk.injEq] at h
        obtain ⟨rfl, rfl⟩ := h
        refine ⟨⟨hupper, hlength, fun c hc => List.mem_takeWhile_imp hc⟩, ?_⟩
        rw [← hrest, List.takeWhile_append_dropWhile]
      · cases h
  · rintro ⟨⟨hupper, hlength, hall⟩, rfl⟩
    have htake : (key ++ '=' :: val).takeWhile isKeyChar = key := by
      rw [List.takeWhile_append_of_pos hall, List.takeWhile_cons_of_neg (by decide), List.append_nil]
    have hdrop : (key ++ '=' :: val).dropWhile isKeyChar = '=' :: val := by
      rw [List.dropWhile_append_of_pos hall, List.dropWhile_cons_of_neg (by decide)]
    rw [assignment?, htake, hdrop]
    exact if_pos ⟨rfl, hupper, hlength⟩

/-- A key is not empty and no comment. -/
theorem not_skipped_of_key (hkey : IsKey key) (hline : rstrip line = key ++ '=' :: val) :
    ¬ (rstrip line = [] ∨ (rstrip line).head? = some '#') := by
  obtain ⟨hupper, hlength, -⟩ := hkey
  rw [hline]
  cases key with
  | nil => cases hupper
  | cons c rest =>
      rw [List.head?_cons, Option.any_some] at hupper
      rintro (h | h)
      · cases h
      · rw [List.cons_append, List.head?_cons, Option.some.injEq] at h
        rw [h] at hupper
        revert hupper
        decide

/-- The two parts of an assignment are unique. -/
theorem assignment_unique {key' val' : List Char} (hkey : IsKey key) (hkey' : IsKey key')
    (h : key ++ '=' :: val = key' ++ '=' :: val') : key = key' ∧ val = val' := by
  have hfirst : assignment? (key ++ '=' :: val) = some (key, val) :=
    assignment?_eq_some.mpr ⟨hkey, rfl⟩
  have hsecond := assignment?_eq_some.mpr ⟨hkey', h⟩
  rw [hfirst, Option.some.injEq, Prod.mk.injEq] at hsecond
  exact hsecond

/-- An assignment of a text without quotes. -/
theorem readLine_plain (hkey : IsKey key) (hline : rstrip line = key ++ '=' :: val)
    (hval : ∀ c ∈ val, special.isSpecial c = false) :
    readLine general line = .assigned (String.ofList key) (.str (String.ofList val)) := by
  have hquote : ¬ (val.head? = some doubleQuote ∨ val.head? = some singleQuote) := by
    rintro (h | h)
    · have hspecial := hval _ (List.mem_of_mem_head? h)
      rw [special.double] at hspecial
      cases hspecial
    · have hspecial := hval _ (List.mem_of_mem_head? h)
      rw [special.single] at hspecial
      cases hspecial
  rw [readLine, if_neg (not_skipped_of_key hkey hline), assignment?_eq_some.mpr ⟨hkey, hline⟩]
  exact if_neg hquote

/-- The characters of a text are among those in quotes. -/
theorem nul_mem_quoteDouble (text : List Char) : nul ∈ quoteDouble text ↔ nul ∈ text := by
  have hother : nul ≠ doubleQuote ∧ nul ≠ backslash := by decide
  have hescape : nul ∈ escapeDouble text ↔ nul ∈ text := by
    rw [escapeDouble, List.mem_flatMap]
    constructor
    · rintro ⟨c, hc, hmem⟩
      split at hmem
      · simp only [List.mem_cons, List.not_mem_nil, or_false] at hmem
        rcases hmem with hmem | rfl
        · exact absurd hmem hother.2
        · exact hc
      · rw [List.mem_singleton] at hmem
        rwa [hmem]
    · intro hmem
      refine ⟨nul, hmem, ?_⟩
      rw [if_neg (by decide)]
      exact List.mem_singleton_self nul
  rw [quoteDouble, List.mem_cons, List.mem_append, hescape, List.mem_singleton]
  tauto

/-- The literal of a text in double quotes has a backslash before each dollar sign and backquote. -/
theorem literalEval_quoteDouble (general : GeneralLiteral) (text : List Char) :
    literalEval general (quoteDouble text) = if nul ∈ text then .error .syntaxError
      else .ok (.str (String.ofList (text.flatMap keptBackslash))) := by
  have hnul := nul_mem_quoteDouble text
  rw [quoteDouble] at hnul ⊢
  rw [literalEval, literalBody?_escapeDouble]
  simp only [hnul]

/-- An assignment of a text in double quotes: the backslashes before dollar signs and backquotes stay,
and a null character is an error. -/
theorem readLine_quoted {text : List Char} (hkey : IsKey key)
    (hline : rstrip line = key ++ '=' :: quoteDouble text) :
    readLine general line = if nul ∈ text then .raised .syntaxError
      else .assigned (String.ofList key) (.str (String.ofList (text.flatMap keptBackslash))) := by
  rw [readLine, if_neg (not_skipped_of_key hkey hline), assignment?_eq_some.mpr ⟨hkey, hline⟩]
  have hquote : (quoteDouble text).head? = some doubleQuote := rfl
  dsimp only
  rw [if_pos (Or.inl hquote), literalEval_quoteDouble]
  by_cases hnul : nul ∈ text
  · rw [if_pos hnul, if_pos hnul]
  · rw [if_neg hnul, if_neg hnul]

/-- The code takes every assignment as one, or raises. -/
theorem readLine_ne_logged (hkey : IsKey key) (hline : rstrip line = key ++ '=' :: val) :
    readLine general line ≠ .logged := by
  rw [readLine, if_neg (not_skipped_of_key hkey hline), assignment?_eq_some.mpr ⟨hkey, hline⟩]
  dsimp only
  intro h
  split at h
  · split at h
    · cases h
    · cases h
  · cases h

/-! ## Lines that are read as they are meant -/

/-- A proper line is read as what it says if its value is safe. -/
theorem readLine_of_proper {action : LineAction} (hproper : Proper special line action)
    (hsafe : SafeValue special line) : readLine general line = action := by
  cases hproper with
  | blank h =>
      rw [readLine]
      exact if_pos (Or.inl h)
  | comment h =>
      rw [readLine]
      exact if_pos (Or.inr h)
  | plain hkey hvalue hline => exact readLine_plain hkey hline hvalue
  | @quoted key value hkey hline =>
      rcases hsafe _ _ hkey hline with hplain | ⟨text, htext, hall⟩
      · -- a quote is special
        have hspecial := hplain doubleQuote List.mem_cons_self
        rw [special.double] at hspecial
        cases hspecial
      · obtain rfl := quoteDouble_injective htext
        have hnul : nul ∉ value := fun hmem => (hall nul hmem).2.2 rfl
        have hkept : value.flatMap keptBackslash = value := by
          rw [flatMap_keptBackslash_eq_iff]
          exact fun c hc => ⟨(hall c hc).1, (hall c hc).2.1⟩
        rw [readLine_quoted hkey hline, if_neg hnul, hkept]

/-- A line that is not proper is logged if it is no assignment with another value. -/
theorem readLine_of_not_proper (hnone : ∀ action, ¬ Proper special line action)
    (hsafe : SafeValue special line) : readLine general line = .logged := by
  have hskipped : ¬ (rstrip line = [] ∨ (rstrip line).head? = some '#') := by
    rintro (h | h)
    · exact hnone _ (.blank h)
    · exact hnone _ (.comment h)
  have hassignment : assignment? (rstrip line) = none := by
    rw [Option.eq_none_iff_forall_not_mem]
    rintro ⟨key, val⟩ hmem
    obtain ⟨hkey, hline⟩ := assignment?_eq_some.mp hmem
    rcases hsafe key val hkey hline with hplain | ⟨text, rfl, -⟩
    · exact hnone _ (.plain hkey hplain hline)
    · exact hnone _ (.quoted hkey hline)
  rw [readLine, if_neg hskipped, hassignment]

/-- What a proper assignment says is unique. -/
theorem eq_of_proper {action : LineAction} (hkey : IsKey key) (hline : rstrip line = key ++ '=' :: val)
    (hproper : Proper special line action) :
    (∀ c ∈ val, special.isSpecial c = false) ∨ ∃ text, val = quoteDouble text ∧
      action = .assigned (String.ofList key) (.str (String.ofList text)) := by
  cases hproper with
  | blank h => exact absurd (Or.inl h) (not_skipped_of_key hkey hline)
  | comment h => exact absurd (Or.inr h) (not_skipped_of_key hkey hline)
  | plain hkey' hvalue hline' =>
      obtain ⟨-, rfl⟩ := assignment_unique hkey hkey' (hline.symm.trans hline')
      exact Or.inl hvalue
  | @quoted key' value hkey' hline' =>
      obtain ⟨rfl, rfl⟩ := assignment_unique hkey hkey' (hline.symm.trans hline')
      exact Or.inr ⟨value, rfl, rfl⟩

/-- A line is read as what it says if and only if its value is safe, in case it is an assignment. -/
theorem readLine_specified_iff :
    (∀ action, Specified special line action → readLine general line = action)
      ↔ SafeValue special line := by
  constructor
  · intro h key val hkey hline
    by_cases hproper : ∃ action, Proper special line action
    · obtain ⟨action, hproper⟩ := hproper
      have hread := h action (Or.inl hproper)
      rcases eq_of_proper hkey hline hproper with hplain | ⟨text, rfl, rfl⟩
      · exact Or.inl hplain
      · -- the value that is read is the text
        refine Or.inr ⟨text, rfl, fun c hc => ?_⟩
        rw [readLine_quoted hkey hline] at hread
        split at hread
        · cases hread
        · rename_i hnul
          rw [LineAction.assigned.injEq, LiteralValue.str.injEq] at hread
          have hall := (flatMap_keptBackslash_eq_iff text).mp (String.ofList_inj.mp hread.2) c hc
          refine ⟨hall.1, hall.2, ?_⟩
          rintro rfl
          exact hnul hc
    · -- an assignment is not logged
      have hlogged := h .logged (Or.inr ⟨fun action ha => hproper ⟨action, ha⟩, rfl⟩)
      exact absurd hlogged (readLine_ne_logged hkey hline)
  · rintro hsafe action (hproper | ⟨hnone, rfl⟩)
    · exact readLine_of_proper hproper hsafe
    · exact readLine_of_not_proper hnone hsafe

/-- No line says that reading raises. -/
theorem ne_raised_of_specified {action : LineAction} (h : Specified special line action)
    (exc : LiteralError) : action ≠ .raised exc := by
  rintro rfl
  rcases h with hproper | ⟨-, hlogged⟩
  · cases hproper
  · cases hlogged

end Lines

/-! ## The file as a whole -/

/-- The value that a line gives to a key. -/
def LineAction.valueFor (key : String) : LineAction → Option LiteralValue
  | .assigned key' value => if key' = key then some value else none
  | _ => none

/-- The value of a key after some lines: the last assignment wins. -/
def lastValue (key : String) (actions : List LineAction) : Option LiteralValue :=
  (actions.filterMap (LineAction.valueFor key)).getLast?

/-- The messages about the lines that are errors, counted from `n`. -/
def errorMessages (filename : String) : Nat → List (List Char) → List LineAction → List String
  | n, line :: lines, action :: actions =>
      (if action = .logged then [parsingError filename n line] else [])
        ++ errorMessages filename (n + 1) lines actions
  | _, _, _ => []

/-- The value of a key is the last one that is assigned to it. -/
theorem lastValue_cons (key : String) (action : LineAction) (actions : List LineAction) :
    lastValue key (action :: actions) = (lastValue key actions).or (action.valueFor key) := by
  rw [lastValue, lastValue, List.filterMap_cons]
  cases action.valueFor key with
  | none => simp
  | some value => simp [List.getLast?_cons, Option.or_some]

section Files

variable {special : SpecialCharacters} {general : GeneralLiteral} {filename : String}
  {read : String → Except String (List Char)}

/-- The loop over lines none of which raises. -/
theorem loadLines_eq {lines : List (List Char)}
    (h : ∀ line ∈ lines, ∀ exc, readLine general line ≠ .raised exc) (n : Nat) (st : Loading) :
    ∃ st', loadLines general true filename n lines st = (st', none) ∧
      (∀ key, st'.result.get? key
        = (lastValue key (lines.map (readLine general))).or (st.result.get? key)) ∧
      st'.log = st.log ++ errorMessages filename n lines (lines.map (readLine general)) := by
  induction lines generalizing n st with
  | nil => exact ⟨st, rfl, fun key => rfl, (List.append_nil _).symm⟩
  | cons line rest ih =>
      rw [List.forall_mem_cons] at h
      rw [loadLines, List.map_cons]
      cases haction : readLine general line with
      | skipped =>
          obtain ⟨st', hload, hvalue, hlog⟩ := ih h.2 (n + 1) st
          refine ⟨st', hload, fun key => ?_, hlog⟩
          rw [hvalue, lastValue_cons]
          simp [LineAction.valueFor]
      | assigned key value =>
          obtain ⟨st', hload, hvalue, hlog⟩ :=
            ih h.2 (n + 1) { st with result := st.result.set key value }
          refine ⟨st', hload, fun key' => ?_, hlog⟩
          rw [hvalue, lastValue_cons, Option.or_assoc, Dict.get?_set, LineAction.valueFor]
          by_cases hkey : key' = key
          · rw [if_pos hkey, if_pos hkey.symm, Option.some_or]
          · rw [if_neg hkey, if_neg (Ne.symm hkey), Option.none_or]
      | logged =>
          obtain ⟨st', hload, hvalue, hlog⟩ :=
            ih h.2 (n + 1) (st.write true (parsingError filename n line))
          refine ⟨st', hload, fun key => ?_, ?_⟩
          · rw [hvalue, lastValue_cons]
            simp [LineAction.valueFor, Loading.write]
          · rw [hlog, errorMessages]
            simp [Loading.write]
      | raised exc => exact absurd haction (h.1 exc)

/-- The files before the first one that can be read are only noted. -/
theorem loadFiles_eq {before after : List String} {content : List Char}
    (hbefore : ∀ file ∈ before, ∃ exc, read file = .error exc) (hread : read filename = .ok content)
    (st : Loading) :
    ∃ notes : List String, notes.length = before.length ∧
      loadFiles general true read (before ++ filename :: after) st
        = loadLines general true filename 0 (fileLines content)
            { st with log := st.log ++ notes } := by
  induction before generalizing st with
  | nil =>
      refine ⟨[], rfl, ?_⟩
      rw [List.nil_append, loadFiles, hread, List.append_nil]
  | cons file before ih =>
      rw [List.forall_mem_cons] at hbefore
      obtain ⟨⟨exc, hexc⟩, hrest⟩ := hbefore
      obtain ⟨notes, hlength, hload⟩ :=
        ih hrest (st.write true s!"Could not read file {file}: {exc}")
      refine ⟨s!"Could not read file {file}: {exc}" :: notes, by simp [hlength], ?_⟩
      rw [List.cons_append, loadFiles, hexc]
      dsimp only
      rw [hload]
      simp [Loading.write]

/-- What the lines say is what becomes of them. -/
theorem map_readLine_eq {lines : List (List Char)} {actions : List LineAction}
    (hlines : ∀ line ∈ lines, ∀ action, Specified special line action →
      readLine general line = action) (hactions : List.Forall₂ (Specified special) lines actions) :
    lines.map (readLine general) = actions := by
  induction hactions with
  | nil => rfl
  | cons haction _ ih =>
      rw [List.forall_mem_cons] at hlines
      rw [List.map_cons, hlines.1 _ haction, ih hlines.2]

variable (special general)

/-- Reading a file goes by its rules. -/
structure ParsedAsSpecified (content : List Char) : Prop where
  /-- Each line has the effect that it says. -/
  lines : ∀ line ∈ fileLines content, ∀ action, Specified special line action →
    readLine general line = action
  /-- If the file is the first one that can be read, no line makes the reading raise, each key gets the
  last value assigned to it, and the other lines are logged. -/
  run : ∀ (read : String → Except String (List Char)) (before after : List String) (filename : String),
    (∀ file ∈ before, ∃ exc, read file = .error exc) → read filename = .ok content →
    ∀ actions, List.Forall₂ (Specified special) (fileLines content) actions →
      ∃ (st : Loading) (notes : List String),
        loadOsRelease general true read (before ++ filename :: after) = (st.log, finishLoading st) ∧
        (∀ key, st.result.get? key = lastValue key actions) ∧ notes.length = before.length ∧
        st.log = notes ++ errorMessages filename 0 (fileLines content) actions

variable {special general} in
/-- A file with safe values is read by its rules. -/
theorem parsedAsSpecified_of_safe {content : List Char}
    (hsafe : ∀ line ∈ fileLines content, SafeValue special line) :
    ParsedAsSpecified special general content := by
  have hlines : ∀ line ∈ fileLines content, ∀ action, Specified special line action →
      readLine general line = action := fun line hline =>
    readLine_specified_iff.mpr (hsafe line hline)
  refine ⟨hlines, fun read before after filename hbefore hread actions hactions => ?_⟩
  have hmap := map_readLine_eq hlines hactions
  have hraises : ∀ line ∈ fileLines content, ∀ exc, readLine general line ≠ .raised exc := by
    intro line hline exc
    by_cases hproper : ∃ action, Proper special line action
    · obtain ⟨action, hproper⟩ := hproper
      rw [hlines line hline action (Or.inl hproper)]
      exact ne_raised_of_specified (Or.inl hproper) exc
    · have hother : Specified special line .logged :=
        Or.inr ⟨fun action ha => hproper ⟨action, ha⟩, rfl⟩
      rw [hlines line hline _ hother]
      exact ne_raised_of_specified hother exc
  obtain ⟨notes, hlength, hfiles⟩ := @loadFiles_eq general filename read before after content
    hbefore hread {}
  obtain ⟨st, hload, hvalue, hlog⟩ := @loadLines_eq general filename _ hraises 0
    { log := notes }
  rw [hmap] at hvalue hlog
  refine ⟨st, notes, ?_, fun key => ?_, hlength, hlog⟩
  · have hloaded : loadFiles general true read (before ++ filename :: after) {} = (st, none) := by
      rw [hfiles, List.nil_append, hload]
    rw [loadOsRelease, hloaded]
  · rw [hvalue]
    simp

/-- Reading a file goes by its rules if and only if each value in it is plain, or a text in double quotes
without dollar signs, backquotes and null characters. -/
theorem parsedAsSpecified_iff (content : List Char) :
    ParsedAsSpecified special general content
      ↔ ∀ line ∈ fileLines content, SafeValue special line :=
  ⟨fun h line hline => readLine_specified_iff.mp (h.lines line hline), parsedAsSpecified_of_safe⟩

variable {special general}

/-- A system is of the family of Red Hat if it is like Fedora or RHEL, and is neither dom0 nor like
Arch Linux. -/
theorem osFamily_eq_redHat (family : List LiteralValue) :
    osFamily family = "RedHat" ↔ (.str "rhel" ∈ family ∨ .str "fedora" ∈ family) ∧
      .str "qubes" ∉ family ∧ .str "arch" ∉ family := by
  unfold osFamily
  dsimp only
  by_cases harch : .str "arch" ∈ family
  · simp [harch]
  by_cases hqubes : .str "qubes" ∈ family
  · simp [harch, hqubes]
  by_cases hredHat : .str "rhel" ∈ family ∨ .str "fedora" ∈ family
  · simp [harch, hqubes, hredHat]
  by_cases hdebian : .str "debian" ∈ family
  · simp [harch, hqubes, hredHat, hdebian]
  · simp [harch, hqubes, hredHat, hdebian]

/-- The value that a line gives is a text. -/
theorem Specified.text {line : List Char} {action : LineAction} (h : Specified special line action)
    {key : String} {value : LiteralValue} (hvalue : action.valueFor key = some value) :
    ∃ text, value = .str text := by
  rcases h with hproper | ⟨-, rfl⟩
  · cases hproper with
    | blank _ | comment _ => cases hvalue
    | plain _ _ _ | quoted _ _ =>
        rw [LineAction.valueFor] at hvalue
        split at hvalue
        · exact ⟨_, (Option.some.inj hvalue).symm⟩
        · cases hvalue
  · cases hvalue

/-- The last value of a key is a text, too. -/
theorem text_of_specified {lines : List (List Char)} {actions : List LineAction}
    (hactions : List.Forall₂ (Specified special) lines actions) {key : String} {value : LiteralValue}
    (h : lastValue key actions = some value) : ∃ text, value = .str text := by
  induction hactions with
  | nil => cases h
  | cons hline _ ih =>
      rw [lastValue_cons, Option.or_eq_some_iff] at h
      rcases h with hlater | ⟨-, hfirst⟩
      · exact ih hlater
      · exact hline.text hfirst

/-- The text of a key, or a default. -/
def textOf (key default : String) (actions : List LineAction) : String :=
  match lastValue key actions with
  | some (.str text) => text
  | _ => default

/-- The names that lines give to a system: its own one, and those of the systems that it is like. -/
def systemNames (actions : List LineAction) : List String :=
  textOf "ID" "linux" actions :: (((textOf "ID_LIKE" "" actions).toList.splitOnP isSpace).filter
    (· ≠ [])).map String.ofList

/-- If the values of a file are safe, then the agent takes a system for one of the family of Red Hat exactly
if the names that the file gives are those of Fedora or RHEL, and not of dom0 or Arch Linux. -/
theorem getOsData_redHat_iff {content : List Char} {actions : List LineAction}
    (hread : read "/etc/os-release" = .ok content)
    (hsafe : ∀ line ∈ fileLines content, SafeValue special line)
    (hactions : List.Forall₂ (Specified special) (fileLines content) actions)
    (hassigned : ∃ key, lastValue key actions ≠ none) :
    ∃ osData, getOsData general true read = .ok osData ∧ (osData.osFamily = "RedHat" ↔
      ("rhel" ∈ systemNames actions ∨ "fedora" ∈ systemNames actions) ∧
        "qubes" ∉ systemNames actions ∧ "arch" ∉ systemNames actions) := by
  obtain ⟨st, notes, hload, hvalues, -, -⟩ := (@parsedAsSpecified_of_safe special general content hsafe).run
    read [] ["/usr/lib/os-release"] "/etc/os-release" (by simp) hread actions hactions
  have hnonempty : st.result.isEmpty = false := by
    obtain ⟨key, hkey⟩ := hassigned
    rw [← Bool.not_eq_true, Dict.isEmpty_iff]
    exact fun hnone => hkey ((hvalues key).symm.trans (hnone key))
  have hvalue : ∀ key default, getValue st.result key default = .str (textOf key default actions) := by
    intro key default
    rw [getValue, hvalues, textOf]
    cases hlast : lastValue key actions with
    | none => rfl
    | some value =>
        obtain ⟨text, rfl⟩ := text_of_specified hactions hlast
        rfl
  have hmem : ∀ name : String, (LiteralValue.str name) ∈ (LiteralValue.str (textOf "ID" "linux" actions) ::
      (((textOf "ID_LIKE" "" actions).toList.splitOnP isSpace).filter (· ≠ [])).map
        fun word => .str (String.ofList word)) ↔ name ∈ systemNames actions := by
    intro name
    simp [systemNames]
  rw [List.nil_append] at hload
  rw [getOsData, hload, finishLoading, hnonempty, if_neg Bool.false_ne_true]
  simp only [Except.mapError, hvalue, LiteralValue.chars, bind, Except.bind]
  refine ⟨_, rfl, ?_⟩
  rw [osFamily_eq_redHat]
  simp only [hmem]

end Files

/-- The characters that are special for a shell. -/
def shellSpecial : SpecialCharacters where
  isSpecial c := !isLiteral c
  double := by decide
  single := by decide

/-- A literal reader that knows string literals with short escapes only. -/
def onlyStrings : GeneralLiteral := fun _ => .error .syntaxError

/-- A name whose closing quote is missing, and an identifier. -/
def unclosedName : List Char := "NAME=\"Qubes\nID=qubes\n".toList

/-- A name with a dollar sign. -/
def dollarName : List Char := "NAME=\"US\\$\"\n".toList

/-- A missing quote ends the reading with an exception; a dollar sign keeps its backslash. -/
theorem not_parsedAsSpecified :
    ¬ (∀ content, ParsedAsSpecified shellSpecial onlyStrings content) ∧
      loadOsRelease onlyStrings true (fun _ => .ok unclosedName) ["/etc/os-release"]
        = ([], .error (.literal .syntaxError)) ∧
      (fileLines dollarName).map (readLine onlyStrings) = [.assigned "NAME" (.str "US\\$")] := by
  have hraises : loadOsRelease onlyStrings true (fun _ => .ok unclosedName) ["/etc/os-release"]
      = ([], .error (.literal .syntaxError)) := by rfl
  refine ⟨fun h => ?_, hraises, by decide +kernel⟩
  have hlines := (h unclosedName).lines "NAME=\"Qubes\n".toList (by decide +kernel)
  rw [readLine_specified_iff] at hlines
  -- the value is neither plain nor in double quotes
  have hchars : "NAME".toList.all isKeyChar = true := by decide +kernel
  rcases hlines "NAME".toList "\"Qubes".toList
    ⟨by decide +kernel, by decide +kernel, List.all_eq_true.mp hchars⟩ (by decide +kernel)
    with hplain | ⟨text, htext, -⟩
  · have hspecial := hplain doubleQuote (by decide +kernel)
    revert hspecial
    decide
  · have hlast := congrArg List.getLast? htext
    rw [quoteDouble, ← List.cons_append, List.getLast?_concat] at hlast
    revert hlast
    decide +kernel

end OsRelease

end QubesAdminLinux
