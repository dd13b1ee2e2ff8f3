import QubesAdminLinux.Agent.OsRelease

/-! # Disabling delta packages

A plugin of the agent sets `deltarpm` to `False` in `dnf.conf`, in the part of the file between the
markers of Qubes.

* **`disableDeltarpm`** — the plugin; `disableIn_replace` and `disableIn_insert` say what it writes.
* **`assigned?`** — the value that a line assigns to the key.
* **`Precise`** — the key ends up disabled, no other line is lost, and a second run changes nothing.
* **`precise_iff`** — when this holds: the first line that begins with the name of the key has to assign
  it, and the last assignment behind it has to be `False` already. -/

namespace QubesAdminLinux

namespace Deltarpm

/-! ## The plugin -/

/-- The line before the part of Qubes. -/
def beginMarker : List Char := "### QUBES BEGIN ###\n".toList

/-- The line behind it. -/
def endMarker : List Char := "### QUBES END ###\n".toList

/-- The line that is written. -/
def disablingLine : List Char := "deltarpm=False\n".toList

/-- `line.startswith("deltarpm")`. -/
def beginsWithKey (line : List Char) : Bool := "deltarpm".toList.isPrefixOf line

/-- The changed lines, or `none` where `lines.index` raises. -/
def disableIn (lines : List (List Char)) : Option (List (List Char)) :=
  if beginMarker ∈ lines ∧ endMarker ∈ lines then
    let start := lines.idxOf beginMarker
    let stop := lines.idxOf endMarker
    match ((lines.take stop).drop start).findIdx? beginsWithKey with
    | some i => some (lines.set (i + start) disablingLine)
    | none => some (lines.insertIdx stop disablingLine)
  else none

/-- `disable_deltarpm`: the new content of `dnf.conf`, or `none` if a `ValueError` leaves it as it is. -/
def disableDeltarpm (osData : OsRelease.OsData) (content : List Char) : Option (List Char) :=
  if osData.osFamily = "RedHat" then (disableIn (fileLines content)).map List.flatten
  else some content

/-! ## Assignments -/

/-- The key of a line of an INI file: what comes before the equals sign, without blanks behind it. -/
def keyOf (line : List Char) : List Char :=
  (line.takeWhile (· ≠ '=')).rdropWhile fun c => c = ' ' || c = '\t'

/-- The value that a line assigns to `deltarpm`. -/
def assigned? (line : List Char) : Option (List Char) :=
  if '=' ∈ line ∧ keyOf line = "deltarpm".toList then some (strip (line.dropWhile (· ≠ '=')).tail)
  else none

/-- The value of the key after some lines. -/
def lastAssigned (lines : List (List Char)) : Option (List Char) :=
  (lines.filterMap assigned?).getLast?

/-- The lines between the markers. -/
def blockOf (lines : List (List Char)) : List (List Char) :=
  ((lines.dropWhile (· ≠ beginMarker)).drop 1).takeWhile (· ≠ endMarker)

/-- The line that is added assigns `False`. -/
theorem assigned?_disablingLine : assigned? disablingLine = some "False".toList := by decide +kernel

/-- The line that is added begins with the key. -/
theorem beginsWithKey_disablingLine : beginsWithKey disablingLine = true := by decide +kernel

/-- The line that is added is a line, and has no carriage return. -/
theorem isLine_disablingLine : IsLine disablingLine ∧ '\r' ∉ disablingLine :=
  ⟨⟨"deltarpm=False".toList, by decide +kernel, by decide +kernel⟩, by decide +kernel⟩

/-- The markers and the line that is added differ, and the begin marker does not begin with the key. -/
theorem markers_ne : beginMarker ≠ endMarker ∧ disablingLine ≠ beginMarker ∧ disablingLine ≠ endMarker ∧
    beginsWithKey beginMarker = false := by decide +kernel

/-! ## What is written -/

section Blocks

variable {before block after : List (List Char)}

/-- The lines of a file around and between the first markers. -/
structure Marked (before block : List (List Char)) : Prop where
  /-- The part of Qubes has not begun. -/
  before : beginMarker ∉ before ∧ endMarker ∉ before
  /-- It has not ended. -/
  block : endMarker ∉ block

/-- The markers are found where the block begins and ends. -/
theorem idxOf_markers (h : Marked before block) :
    (before ++ beginMarker :: (block ++ endMarker :: after)).idxOf beginMarker = before.length ∧
      (before ++ beginMarker :: (block ++ endMarker :: after)).idxOf endMarker
        = before.length + (block.length + 1) := by
  constructor
  · rw [List.idxOf_append_of_notMem h.before.1, List.idxOf_cons_self, Nat.add_zero]
  · rw [List.idxOf_append_of_notMem h.before.2, List.idxOf_cons_ne _ markers_ne.1,
      List.idxOf_append_of_notMem h.block, List.idxOf_cons_self, Nat.add_zero, Nat.succ_eq_add_one]

/-- The lines that are scanned are the first marker and the block. -/
theorem disableIn_eq (h : Marked before block) :
    disableIn (before ++ beginMarker :: (block ++ endMarker :: after))
      = match (block.findIdx? beginsWithKey) with
        | some i => some (before ++ beginMarker :: (block.set i disablingLine ++ endMarker :: after))
        | none => some (before ++ beginMarker :: (block ++ disablingLine :: endMarker :: after)) := by
  obtain ⟨hstart, hstop⟩ := @idxOf_markers before block after h
  have hslice : ((before ++ beginMarker :: (block ++ endMarker :: after)).take
      (before.length + (block.length + 1))).drop before.length = beginMarker :: block := by
    rw [List.take_length_add_append, List.drop_left, List.take_succ_cons, List.take_left]
  rw [disableIn, if_pos (by simp), hstart, hstop]
  dsimp only
  rw [hslice, List.findIdx?_cons, markers_ne.2.2.2, if_neg Bool.false_ne_true]
  cases hfind : block.findIdx? beginsWithKey with
  | none =>
      rw [Option.map_none]
      dsimp only
      have hinsert : ∀ (front rest : List (List Char)) (line : List Char),
          (front ++ rest).insertIdx front.length line = front ++ line :: rest := by
        intro front rest line
        induction front with
        | nil => rfl
        | cons first front ih => rw [List.cons_append, List.length_cons, List.insertIdx_succ_cons, ih,
            List.cons_append]
      have hall := hinsert (before ++ beginMarker :: block) (endMarker :: after) disablingLine
      rw [List.length_append, List.length_cons, List.append_assoc, List.cons_append] at hall
      rw [hall, List.append_assoc, List.cons_append]
  | some i =>
      rw [Option.map_some]
      dsimp only
      have hlt : i < block.length := by
        obtain ⟨hlt, -⟩ := List.findIdx?_eq_some_iff_getElem.mp hfind
        exact hlt
      rw [List.set_append_right _ _ (by omega), Nat.add_sub_cancel, List.set_cons_succ,
        List.set_append_left _ _ hlt]

/-- The first line of the block that begins with the key is replaced. -/
theorem disableIn_replace {earlier later : List (List Char)} {old : List Char}
    (h : Marked before (earlier ++ old :: later)) (hearlier : ∀ line ∈ earlier, beginsWithKey line = false)
    (hold : beginsWithKey old = true) :
    disableIn (before ++ beginMarker :: (earlier ++ old :: later ++ endMarker :: after))
      = some (before ++ beginMarker
          :: (earlier ++ disablingLine :: later ++ endMarker :: after)) := by
  have hfind : (earlier ++ old :: later).findIdx? beginsWithKey = some earlier.length := by
    rw [List.findIdx?_append, List.findIdx?_eq_none_iff.mpr hearlier, List.findIdx?_cons, hold]
    simp
  rw [disableIn_eq h, hfind]
  dsimp only
  rw [List.set_append_right _ _ le_rfl, Nat.sub_self, List.set_cons_zero]

/-- Without such a line, one is put at the end of the block. -/
theorem disableIn_insert (h : Marked before block) (hblock : ∀ line ∈ block, beginsWithKey line = false) :
    disableIn (before ++ beginMarker :: (block ++ endMarker :: after))
      = some (before ++ beginMarker :: (block ++ disablingLine :: endMarker :: after)) := by
  rw [disableIn_eq h, List.findIdx?_eq_none_iff.mpr hblock]

end Blocks

/-! ## The written file -/

section Written

variable {osData : OsRelease.OsData} {content : List Char} {before block after : List (List Char)}

/-- Where the line is written in a block: at its end, or in the place of a line that begins with the
key. -/
def Splits (block earlier later : List (List Char)) : Prop :=
  (block = earlier ∧ later = []) ∨
    ∃ old, beginsWithKey old = true ∧ block = earlier ++ old :: later

/-- A block with the written line in it. -/
theorem disableDeltarpm_written (hfamily : osData.osFamily = "RedHat")
    (hlines : fileLines content = before ++ beginMarker :: (block ++ endMarker :: after))
    (hmarked : Marked before block) :
    ∃ earlier later, (∀ line ∈ earlier, beginsWithKey line = false) ∧
      Splits block earlier later ∧
      disableDeltarpm osData content = some (before ++ beginMarker
        :: (earlier ++ disablingLine :: later ++ endMarker :: after)).flatten := by
  have hrun : ∀ lines, disableIn (fileLines content) = some lines →
      disableDeltarpm osData content = some lines.flatten := by
    intro lines hdisable
    rw [disableDeltarpm, if_pos hfamily, hdisable]
    rfl
  cases hfind : block.find? beginsWithKey with
  | none =>
      have hnone : ∀ line ∈ block, beginsWithKey line = false := by
        simpa using List.find?_eq_none.mp hfind
      refine ⟨block, [], hnone, Or.inl ⟨rfl, rfl⟩, hrun _ ?_⟩
      rw [hlines, disableIn_insert hmarked hnone]
      simp
  | some old =>
      obtain ⟨hold, earlier, later, rfl, hearlier⟩ := List.find?_eq_some_iff_append.mp hfind
      have hnone : ∀ line ∈ earlier, beginsWithKey line = false := by
        simpa using hearlier
      refine ⟨earlier, later, hnone, Or.inr ⟨old, hold, rfl⟩, hrun _ ?_⟩
      rw [hlines, disableIn_replace hmarked hnone hold]

/-- The written block ends before the second marker, too. -/
theorem marked_written {earlier later : List (List Char)} (hmarked : Marked before block)
    (hblock : Splits block earlier later) : Marked before (earlier ++ disablingLine :: later) := by
  refine ⟨hmarked.before, fun hmem => ?_⟩
  have hend := hmarked.block
  rw [List.mem_append, List.mem_cons] at hmem
  rcases hblock with ⟨rfl, rfl⟩ | ⟨old, -, rfl⟩
  · rcases hmem with hmem | heq | hmem
    · exact hend hmem
    · exact markers_ne.2.2.1 heq.symm
    · cases hmem
  · rw [List.mem_append, List.mem_cons, not_or, not_or] at hend
    rcases hmem with hmem | heq | hmem
    · exact hend.1 hmem
    · exact markers_ne.2.2.1 heq.symm
    · exact hend.2.2 hmem

/-- The written file is read back line by line. -/
theorem fileLines_written {earlier later : List (List Char)}
    (hlines : fileLines content = before ++ beginMarker :: (block ++ endMarker :: after))
    (hblock : Splits block earlier later) :
    fileLines (before ++ beginMarker
        :: (earlier ++ disablingLine :: later ++ endMarker :: after)).flatten
      = before ++ beginMarker :: (earlier ++ disablingLine :: later ++ endMarker :: after) := by
  have hfile : fileLines content = (before ++ beginMarker :: block) ++ endMarker :: after := by
    rw [hlines, List.append_assoc, List.cons_append]
  -- each line in front of the second marker is new, or was there before
  have hmem : ∀ line ∈ before ++ beginMarker :: (earlier ++ disablingLine :: later),
      line = disablingLine ∨ line ∈ before ++ beginMarker :: block := by
    intro line hline
    rcases hblock with ⟨rfl, rfl⟩ | ⟨old, -, rfl⟩
    · simp only [List.mem_append, List.mem_cons, List.not_mem_nil, or_false] at hline ⊢
      tauto
    · simp only [List.mem_append, List.mem_cons] at hline ⊢
      tauto
  have hread := @fileLines_flatten content _ after endMarker hfile
    (before ++ beginMarker :: (earlier ++ disablingLine :: later))
    (fun line hline => (hmem line hline).elim (fun heq => heq ▸ isLine_disablingLine.1)
      fun hold => isLine_of_mem_before hfile line hold)
    (fun line hline => (hmem line hline).elim (fun heq => heq ▸ isLine_disablingLine.2)
      fun hold => return_notMem_of_mem_fileLines (hfile ▸ List.mem_append_left _ hold))
  rwa [List.append_assoc, List.cons_append] at hread

/-- The block of marked lines. -/
theorem blockOf_eq (hmarked : Marked before block) :
    blockOf (before ++ beginMarker :: (block ++ endMarker :: after)) = block := by
  have hbefore : ∀ line ∈ before, decide (line ≠ beginMarker) = true := by
    intro line hline
    rw [decide_eq_true_iff]
    rintro rfl
    exact hmarked.before.1 hline
  have hblock : ∀ line ∈ block, decide (line ≠ endMarker) = true := by
    intro line hline
    rw [decide_eq_true_iff]
    rintro rfl
    exact hmarked.block hline
  rw [blockOf, List.dropWhile_append_of_pos hbefore, List.dropWhile_cons_of_neg (by simp),
    List.drop_one, List.tail_cons, List.takeWhile_append_of_pos hblock,
    List.takeWhile_cons_of_neg (by simp), List.append_nil]

/-- The last assignment of a written block. -/
theorem lastAssigned_written (earlier later : List (List Char)) :
    lastAssigned (earlier ++ disablingLine :: later)
      = some ((lastAssigned later).getD "False".toList) := by
  rw [lastAssigned, lastAssigned, List.filterMap_append, List.filterMap_cons, assigned?_disablingLine]
  dsimp only
  rw [List.getLast?_append, List.getLast?_cons, Option.some_or]

variable (osData content)

/-- The plugin disables the key and nothing else, once and for all. -/
def Precise : Prop :=
  ∃ content', disableDeltarpm osData content = some content' ∧
    lastAssigned (blockOf (fileLines content')) = some "False".toList ∧
    ((fileLines content).filter fun line => assigned? line = none).Sublist (fileLines content') ∧
    disableDeltarpm osData content' = some content'

/-- The first line of a block that begins with the key assigns it, and what is assigned behind it in the
end is `False`. -/
def Replaceable (block : List (List Char)) : Prop :=
  ∀ earlier old later, block = earlier ++ old :: later →
    (∀ line ∈ earlier, beginsWithKey line = false) → beginsWithKey old = true →
    (assigned? old).isSome = true ∧ ∀ value, lastAssigned later = some value → value = "False".toList

variable {osData content}

/-- The lines that do not assign the key are kept exactly if the line that is replaced assigns it. -/
theorem kept_iff {before' earlier later : List (List Char)} {old : List Char} :
    ((before' ++ (earlier ++ old :: later)).filter fun line => assigned? line = none).Sublist
        (before' ++ (earlier ++ disablingLine :: later))
      ↔ (assigned? old).isSome = true := by
  have hnew : decide (assigned? disablingLine = none) = false := by
    rw [assigned?_disablingLine]
    rfl
  constructor
  · intro hsub
    by_contra hold
    rw [Bool.not_eq_true, Option.isSome_eq_false_iff, Option.isNone_iff_eq_none] at hold
    -- one line fewer is kept than there was
    have hlength := (hsub.filter fun line => decide (assigned? line = none)).length_le
    simp only [List.filter_append, List.filter_cons, hold, hnew, List.filter_filter, Bool.and_self,
      decide_true, if_true, Bool.false_eq_true, if_false, List.length_append, List.length_cons]
      at hlength
    omega
  · intro hold
    have hdropped : decide (assigned? old = none) = false := by
      rw [decide_eq_false_iff_not]
      intro hnone
      rw [hnone] at hold
      cases hold
    rw [List.filter_append, List.filter_append, List.filter_cons, hdropped]
    refine List.filter_sublist.append (List.filter_sublist.append ?_)
    exact List.filter_sublist.trans (List.sublist_cons_self _ _)

/-- The condition is about the first line that begins with the key. -/
theorem replaceable_iff {earlier later : List (List Char)} {old : List Char}
    (hearlier : ∀ line ∈ earlier, beginsWithKey line = false) (hold : beginsWithKey old = true) :
    Replaceable (earlier ++ old :: later) ↔
      (assigned? old).isSome = true ∧ (lastAssigned later).getD "False".toList = "False".toList := by
  have hfalse : (lastAssigned later).getD "False".toList = "False".toList
      ↔ ∀ value, lastAssigned later = some value → value = "False".toList := by
    cases lastAssigned later with
    | none => simp
    | some value => simp
  rw [hfalse]
  constructor
  · intro h
    exact h earlier old later rfl hearlier hold
  · intro h first line rest hsplit hfirst hline
    have hfind : ∀ {front back : List (List Char)} {found : List Char},
        (∀ line ∈ front, beginsWithKey line = false) → beginsWithKey found = true →
        (front ++ found :: back).dropWhile (fun line => !beginsWithKey line) = found :: back := by
      intro front back found hfront hfound
      rw [List.dropWhile_append_of_pos (by simpa using hfront),
        List.dropWhile_cons_of_neg (by simpa using hfound)]
    have hsame := congrArg (List.dropWhile fun line => !beginsWithKey line) hsplit
    rw [hfind hearlier hold, hfind hfirst hline, List.cons.injEq] at hsame
    rw [← hsame.1, ← hsame.2]
    exact h

/-- Without the second marker on a line of its own, `lines.index` raises. -/
theorem disableIn_eq_none {stop : List Char}
    (hlines : fileLines content = before ++ beginMarker :: (block ++ stop :: after))
    (hmarked : Marked before block) (hstop : stop = "### QUBES END ###".toList) :
    disableIn (fileLines content) = none := by
  -- a line without a newline is the last one
  have hafter : after = [] := by
    cases hafter : after with
    | nil => rfl
    | cons next rest =>
        have hfile : textLines (universalNewlines content)
            = (before ++ beginMarker :: block) ++ stop :: next :: rest := by
          rw [← hafter, List.append_assoc, List.cons_append]
          exact hlines
        obtain ⟨body, -, hbody⟩ := isLine_of_textLines_eq hfile
        have hlast := congrArg List.getLast? (hstop.symm.trans hbody)
        rw [List.getLast?_concat] at hlast
        have hother : "### QUBES END ###".toList.getLast? ≠ some '\n' := by decide +kernel
        exact absurd hlast hother
  have hnone : endMarker ∉ fileLines content := by
    rw [hlines, hafter, hstop]
    have hother : endMarker ≠ "### QUBES END ###".toList := by decide +kernel
    simp only [List.mem_append, List.mem_cons, List.not_mem_nil, or_false, not_or]
    exact ⟨hmarked.before.2, Ne.symm markers_ne.1, hmarked.block, hother⟩
  rw [disableIn, if_neg fun h => hnone h.2]

/-- What is left to be said of a written file: the last assignment behind the written line, and the lines
that are kept. -/
theorem precise_iff_written {earlier later : List (List Char)} (hfamily : osData.osFamily = "RedHat")
    (hlines : fileLines content = before ++ beginMarker :: (block ++ endMarker :: after))
    (hmarked : Marked before block) (hearlier : ∀ line ∈ earlier, beginsWithKey line = false)
    (hblock : Splits block earlier later)
    (hrun : disableDeltarpm osData content = some (before ++ beginMarker
      :: (earlier ++ disablingLine :: later ++ endMarker :: after)).flatten) :
    Precise osData content ↔
      (lastAssigned later).getD "False".toList = "False".toList ∧
        ((fileLines content).filter fun line => assigned? line = none).Sublist
          (before ++ beginMarker :: (earlier ++ disablingLine :: later ++ endMarker :: after)) := by
  have hread := fileLines_written hlines hblock
  have hmarked' := marked_written hmarked hblock
  have hlast := lastAssigned_written earlier later
  constructor
  · rintro ⟨content', hcontent', hvalue, hkept, -⟩
    rw [hrun, Option.some.injEq] at hcontent'
    subst hcontent'
    rw [hread, blockOf_eq hmarked', hlast, Option.some.injEq] at hvalue
    rw [hread] at hkept
    exact ⟨hvalue, hkept⟩
  · rintro ⟨hfalse, hkept⟩
    refine ⟨_, hrun, ?_, ?_, ?_⟩
    · rw [hread, blockOf_eq hmarked', hlast, hfalse]
    · rw [hread]
      exact hkept
    · -- a second run replaces the line by itself
      rw [disableDeltarpm, if_pos hfamily, hread,
        disableIn_replace hmarked' hearlier beginsWithKey_disablingLine, Option.map_some]

/-- With a newline behind the second marker, it depends on what is between the markers. -/
theorem precise_iff_replaceable (hfamily : osData.osFamily = "RedHat")
    (hlines : fileLines content = before ++ beginMarker :: (block ++ endMarker :: after))
    (hmarked : Marked before block) : Precise osData content ↔ Replaceable block := by
  obtain ⟨earlier, later, hearlier, hblock, hrun⟩ := disableDeltarpm_written hfamily hlines hmarked
  rw [precise_iff_written hfamily hlines hmarked hearlier hblock hrun]
  rcases hblock with ⟨rfl, rfl⟩ | ⟨old, hold, rfl⟩
  · -- the line is put at the end of the block
    refine iff_of_true ⟨rfl, ?_⟩ ?_
    · rw [hlines]
      refine List.filter_sublist.trans ?_
      simp
    · intro first line rest hsplit _ hline
      have hmem : line ∈ block := hsplit ▸ List.mem_append_right _ List.mem_cons_self
      rw [hearlier line hmem] at hline
      cases hline
  · have hkept := @kept_iff (before ++ [beginMarker]) earlier (later ++ endMarker :: after) old
    simp only [List.append_assoc, List.cons_append, List.nil_append] at hkept
    rw [replaceable_iff hearlier hold, hlines]
    simp only [List.append_assoc, List.cons_append]
    rw [hkept, and_comm]

/-- For a file with both markers, the plugin is precise if and only if the second marker ends with a
newline, the first line between them that begins with the key assigns it, and the last assignment
behind that line is `False`. -/
theorem precise_iff {stop : List Char} (hfamily : osData.osFamily = "RedHat")
    (hlines : fileLines content = before ++ beginMarker :: (block ++ stop :: after))
    (hmarked : Marked before block) (hstop : stop = endMarker ∨ stop = "### QUBES END ###".toList) :
    Precise osData content ↔ stop = endMarker ∧ Replaceable block := by
  rcases hstop with rfl | hstop
  · rw [and_iff_right rfl]
    exact precise_iff_replaceable hfamily hlines hmarked
  · have hraises : disableDeltarpm osData content = none := by
      rw [disableDeltarpm, if_pos hfamily, disableIn_eq_none hlines hmarked hstop]
      rfl
    apply iff_of_false
    · rintro ⟨content', hcontent', -⟩
      rw [hraises] at hcontent'
      cases hcontent'
    · rintro ⟨heq, -⟩
      rw [heq] at hstop
      revert hstop
      decide +kernel

end Written

/-- A Fedora template. -/
def fedora : OsRelease.OsData := { id := "fedora", name := "Fedora Linux", osFamily := "RedHat" }

/-- The part of Qubes with its own lines. -/
def enabledBlock : List (List Char) :=
  ["fastestmirror=1\n".toList, "deltarpm = True\n".toList, "deltarpm=False\n".toList]

/-- The first of two assignments is replaced. -/
theorem precise_iff_enabled :
    Precise fedora ([beginMarker] ++ enabledBlock ++ [endMarker]).flatten ↔
      endMarker = endMarker ∧ Replaceable enabledBlock :=
  @precise_iff fedora ([beginMarker] ++ enabledBlock ++ [endMarker]).flatten [] enabledBlock [] endMarker
    rfl (by decide +kernel) ⟨by decide +kernel, by decide +kernel⟩ (Or.inl rfl)

/-- Another key with the same first letters, in the part of Qubes. -/
def otherKey : List Char := "deltarpm_percentage=50\n".toList

/-- An assignment that is left behind the replaced one. -/
def enabledAgain : List (List Char) := ["deltarpm=False\n".toList, "deltarpm=True\n".toList]

/-- The line of another key is lost; a later assignment keeps `deltarpm` enabled. -/
theorem not_precise_otherKey :
    (fileLines (beginMarker ++ otherKey ++ endMarker) = [] ++ beginMarker :: ([otherKey] ++ [endMarker]) ∧
      Marked [] [otherKey] ∧ ¬ Precise fedora (beginMarker ++ otherKey ++ endMarker)) ∧
      ¬ Precise fedora (beginMarker ++ enabledAgain.flatten ++ endMarker) := by
  refine ⟨⟨by decide +kernel, ⟨by decide +kernel, by decide +kernel⟩, ?_⟩, ?_⟩
  · rintro ⟨content', hcontent', -, hkept, -⟩
    have hwritten : disableDeltarpm fedora (beginMarker ++ otherKey ++ endMarker)
        = some (beginMarker ++ disablingLine ++ endMarker) := by decide +kernel
    rw [hwritten, Option.some.injEq] at hcontent'
    subst hcontent'
    have hlost : otherKey ∈ (fileLines (beginMarker ++ otherKey ++ endMarker)).filter
        fun line => assigned? line = none := by decide +kernel
    have hmem := hkept.mem hlost
    revert hmem
    decide +kernel
  · rintro ⟨content', hcontent', hvalue, -⟩
    have hwritten : disableDeltarpm fedora (beginMarker ++ enabledAgain.flatten ++ endMarker)
        = some (beginMarker ++ enabledAgain.flatten ++ endMarker) := by decide +kernel
    rw [hwritten, Option.some.injEq] at hcontent'
    subst hcontent'
    revert hvalue
    decide +kernel

end Deltarpm

end QubesAdminLinux
