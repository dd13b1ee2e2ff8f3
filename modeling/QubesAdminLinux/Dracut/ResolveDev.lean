import Mathlib.Data.Nat.Digits.Lemmas
import QubesAdminLinux.Dracut.PciBack
import QubesAdminLinux.Lib.Globs
import QubesAdminLinux.Lib.Numerals

/-! # Paths of PCI devices

A device behind bridges is named by the way to it: the bridges and the device, each with its bus, where
all buses but the first one are relative to the secondary bus of the bridge before.  This stays true when
the numbers of the buses change, which is why `resolve_dev` looks the bridges up.

* **`DevicePath`** — such a path; **`Topology.follow`** — where it leads.
* **`resolveBridges_path`** — the loop follows the path, bridge by bridge.
* **`loopRounds_of_count_le`** — the loop ends, after at most one round for each hyphen.
* **`resolveDev_follows`** — what `resolve_dev` prints for paths and for other names. -/

namespace QubesAdminLinux

namespace PciBack

open Boot

/-! ## Paths -/

/-- The device and the function of an address, as they are written. -/
structure Slot where
  /-- The digits of the device. -/
  device : List Char
  /-- The digits of the function. -/
  function : List Char
  isHex_device : ∀ c ∈ device, isHex c = true
  isHex_function : ∀ c ∈ function, isHex c = true

/-- `dev.fn`. -/
def Slot.text (slot : Slot) : List Char := slot.device ++ '.' :: slot.function

/-- The digits of a segment. -/
structure Segment where
  /-- The digits. -/
  digits : List Char
  length_eq : digits.length = 4
  isHex_digits : ∀ c ∈ digits, isHex c = true

/-- Zeros are hexadecimal digits. -/
theorem isHex_zeros : ∀ c ∈ ['0', '0', '0', '0'], isHex c = true :=
  List.all_eq_true.mp (by decide)

/-- The segment of a path that names none. -/
def Segment.default : Segment := ⟨['0', '0', '0', '0'], rfl, isHex_zeros⟩

/-- A place on a bus. -/
structure Address where
  /-- The number of the bus. -/
  bus : Nat
  /-- The device and the function. -/
  slot : Slot

/-- `bus:dev.fn`. -/
def Address.text (a : Address) : List Char := printHex a.bus ++ ':' :: a.slot.text

/-- `segment:bus:dev.fn`, the name of a device. -/
def Address.name (segment : Segment) (a : Address) : List Char := segment.digits ++ ':' :: a.text

/-- A bus relative to the secondary bus of a bridge, in hexadecimal. -/
structure Offset where
  /-- The digits. -/
  digits : List Char
  /-- The number. -/
  value : Nat
  spells : numeral? 16 digits = some value

/-- A step of a path, behind a bridge. -/
structure Hop where
  /-- The bus. -/
  offset : Offset
  /-- The device and the function. -/
  slot : Slot

/-- A path to a device. -/
structure DevicePath where
  /-- The segment, if it is written. -/
  segment? : Option Segment
  /-- The first bridge, or the device. -/
  first : Address
  /-- What follows, each behind the bridge before it. -/
  hops : List Hop

/-- `-offset_dev.fn`. -/
def Hop.text (hop : Hop) : List Char := '-' :: hop.offset.digits ++ '_' :: hop.slot.text

/-- `bus_dev.fn-offset_dev.fn-...`. -/
def pathFrom (a : Address) (hops : List Hop) : List Char :=
  printHex a.bus ++ '_' :: a.slot.text ++ hops.flatMap Hop.text

/-- The path as it is written. -/
def DevicePath.text (p : DevicePath) : List Char :=
  match p.segment? with
  | none => pathFrom p.first p.hops
  | some segment => segment.digits ++ '_' :: pathFrom p.first p.hops

/-- The segment of a path. -/
def DevicePath.segment (p : DevicePath) : Segment := p.segment?.getD .default

/-! ## Where a path leads -/

/-- The secondary buses of the bridges of a machine. -/
structure Topology where
  /-- The secondary bus of a bridge, if there is such a bridge. -/
  secondary : Segment → Address → Option Nat

namespace Topology

variable (T : Topology)

/-- The place behind a bridge with a secondary bus. -/
def behind (bus : Nat) (hop : Hop) : Address := ⟨bus + hop.offset.value, hop.slot⟩

/-- The device to which a path leads, if all of its bridges exist. -/
def follow (segment : Segment) : Address → List Hop → Option Address
  | a, [] => some a
  | a, hop :: hops =>
      match T.secondary segment a with
      | none => none
      | some bus => follow segment (behind bus hop) hops

/-- The numbers of the buses on a path are in the range of the integers of the shell. -/
def InRange (segment : Segment) : Address → List Hop → Prop
  | _, [] => True
  | a, hop :: hops => ∀ bus ∈ T.secondary segment a,
      (behind bus hop).bus < 2 ^ 63 ∧ InRange segment (behind bus hop) hops

end Topology

/-- The machine publishes the secondary buses of the topology in decimal, and its shell adds integer
constants. -/
structure Publishes (m : Boot) (T : Topology) : Prop where
  secondaryBus : ∀ segment (a : Address), a.bus < 2 ^ 63 →
    m.secondaryBus (String.ofList (a.name segment)) = (T.secondary segment a).map toString
  addBus : ∀ bus offset sum, addConstants ('0' :: 'x' :: bus) offset.toList = some sum →
    m.addBus (String.ofList bus) offset = some sum

/-! ## Characters -/

/-- Separators are no digits. -/
theorem notMem_of_isHex {digits : List Char} {c : Char} (h : ∀ d ∈ digits, isHex d = true)
    (hc : isHex c = false) : c ∉ digits := by
  intro hmem
  rw [h c hmem] at hc
  cases hc

/-- A printed number has only hexadecimal digits. -/
theorem isHex_printHex (n : Int) : ∀ c ∈ printHex n, isHex c = true := by
  have hdigit : ∀ d < 16, isHex (hexDigit d) = true := by decide
  intro c hc
  rw [printHex, List.mem_append] at hc
  rcases hc with hc | hc
  · rw [List.eq_of_mem_replicate hc]
    rfl
  · obtain ⟨d, hd, rfl⟩ := List.mem_map.mp hc
    exact hdigit d (Nat.digits_lt_base (by decide) (List.mem_reverse.mp hd))

/-- A bus is written with two digits. -/
theorem length_printHex {n : Nat} (h : n ≤ 0xff) : (printHex n).length = 2 := by
  have hlength : (Nat.digits 16 n).length ≤ 2 :=
    (Nat.digits_length_le_iff (by decide) n).mpr (Nat.lt_succ_of_le h)
  have hmod : ((n : Int) % 2 ^ 64).toNat = n := by omega
  rw [printHex, hmod, List.length_append, List.length_replicate, List.length_map, List.length_reverse]
  omega

/-- A slot has only hexadecimal digits and a point. -/
theorem Slot.notMem_text (slot : Slot) {c : Char} (hc : isHex c = false) (hdot : c ≠ '.') :
    c ∉ slot.text := by
  rw [Slot.text, List.mem_append, List.mem_cons]
  rintro (h | h | h)
  · exact notMem_of_isHex slot.isHex_device hc h
  · exact hdot h
  · exact notMem_of_isHex slot.isHex_function hc h

/-- An address has only hexadecimal digits, points and colons. -/
theorem Address.notMem_text (a : Address) {c : Char} (hc : isHex c = false) (hdot : c ≠ '.')
    (hcolon : c ≠ ':') : c ∉ a.text := by
  rw [Address.text, List.mem_append, List.mem_cons]
  rintro (h | h | h)
  · exact notMem_of_isHex (isHex_printHex _) hc h
  · exact hcolon h
  · exact a.slot.notMem_text hc hdot h

/-! ## The loop -/

variable {m : Boot} {T : Topology}

/-- One round of the loop: the name of the rest of the path, if the bridge exists. -/
def Boot.bridgeStep (m : Boot) (segment dev : List Char) : Option (List Char) :=
  let bridge := replaceChar '_' ':' (upTo '-' dev)
  let rest := removeThrough '-' dev
  (m.secondaryBus (String.ofList (segment ++ ':' :: bridge))).map fun offset =>
    ((m.addBus (String.ofList (upTo '_' rest)) offset).map printHex).getD []
      ++ '_' :: removeThrough '_' rest

/-- The loop is one round and the rest of the loop. -/
theorem resolveBridges_step {segment dev : List Char} (h : '-' ∈ dev) :
    m.resolveBridges segment dev
      = (m.bridgeStep segment dev).bind fun next => m.resolveBridges segment next := by
  rw [resolveBridges, if_pos h, bridgeStep]
  dsimp only
  cases m.secondaryBus (String.ofList (segment ++ ':' :: replaceChar '_' ':' (upTo '-' dev))) with
  | none => rfl
  | some offset => rfl

/-- A device behind no bridge is resolved. -/
theorem resolveBridges_end {segment dev : List Char} (h : '-' ∉ dev) :
    m.resolveBridges segment dev = some dev := by
  rw [resolveBridges, if_neg h]

/-- Each round leaves fewer hyphens. -/
theorem count_bridgeStep_lt {segment dev next : List Char} (h : '-' ∈ dev)
    (hnext : m.bridgeStep segment dev = some next) : next.count '-' < dev.count '-' := by
  obtain ⟨offset, -, rfl⟩ := Option.map_eq_some_iff.mp hnext
  exact count_hyphen_lt h _

/-- The loop, looked at for some rounds; `none` if it has not ended. -/
def Boot.loopRounds (m : Boot) (segment : List Char) : Nat → List Char → Option (Option (List Char))
  | 0, dev => if '-' ∈ dev then none else some (some dev)
  | rounds + 1, dev =>
      if '-' ∈ dev then
        match m.bridgeStep segment dev with
        | none => some none
        | some next => loopRounds m segment rounds next
      else some (some dev)

/-- The loop ends, after at most one round for each hyphen. -/
theorem loopRounds_of_count_le {segment dev : List Char} {rounds : Nat} (h : dev.count '-' ≤ rounds) :
    m.loopRounds segment rounds dev = some (m.resolveBridges segment dev) := by
  induction rounds generalizing dev with
  | zero =>
      have hnone : '-' ∉ dev := List.count_eq_zero.mp (Nat.le_zero.mp h)
      rw [loopRounds, if_neg hnone, resolveBridges_end hnone]
  | succ rounds ih =>
      rw [loopRounds]
      by_cases hhyphen : '-' ∈ dev
      · rw [if_pos hhyphen, resolveBridges_step hhyphen]
        cases hnext : m.bridgeStep segment dev with
        | none => rfl
        | some next =>
            have hlt := count_bridgeStep_lt hhyphen hnext
            exact ih (by omega)
      · rw [if_neg hhyphen, resolveBridges_end hhyphen]

/-! ## The loop on a path -/

/-- A path with a bridge, taken apart. -/
theorem pathFrom_cons (a : Address) (hop : Hop) (hops : List Hop) :
    pathFrom a (hop :: hops) = (printHex a.bus ++ '_' :: a.slot.text)
      ++ '-' :: (hop.offset.digits ++ '_' :: (hop.slot.text ++ hops.flatMap Hop.text)) := by
  simp [pathFrom, Hop.text]

/-- There is no separator in the digits. -/
theorem notMem_digits (offset : Offset) : '-' ∉ offset.digits ∧ '_' ∉ offset.digits :=
  ⟨notMem_of_numeral? offset.spells (by decide), notMem_of_numeral? offset.spells (by decide)⟩

/-- A round of the loop replaces a bridge and what follows it by the place behind the bridge. -/
theorem bridgeStep_pathFrom (hm : Publishes m T) (segment : Segment) {a : Address} (ha : a.bus < 2 ^ 63)
    (hop : Hop) (hops : List Hop)
    (hrange : ∀ bus ∈ T.secondary segment a, (Topology.behind bus hop).bus < 2 ^ 63) :
    m.bridgeStep segment.digits (pathFrom a (hop :: hops))
      = (T.secondary segment a).map fun bus => pathFrom (Topology.behind bus hop) hops := by
  have hbus := isHex_printHex a.bus
  have hhyphen : '-' ∉ printHex a.bus ++ '_' :: a.slot.text := by
    rw [List.mem_append, List.mem_cons]
    rintro (h | h | h)
    · exact notMem_of_isHex hbus rfl h
    · cases h
    · exact a.slot.notMem_text rfl (by decide) h
  have hbridge : replaceChar '_' ':' (printHex a.bus ++ '_' :: a.slot.text) = a.text :=
    replaceChar_append (notMem_of_isHex hbus rfl) (a.slot.notMem_text rfl (by decide))
  have hname : segment.digits ++ ':' :: a.text = a.name segment := rfl
  rw [bridgeStep, pathFrom_cons]
  rw [upTo_append hhyphen, removeThrough_append hhyphen, upTo_append (notMem_digits _).2,
    removeThrough_append (notMem_digits _).2, hbridge, hname, hm.secondaryBus segment a ha]
  cases hsecondary : T.secondary segment a with
  | none => rfl
  | some bus =>
      have hlt : hop.offset.value + bus < 2 ^ 63 := by
        have hbehind := hrange bus hsecondary
        rw [Topology.behind] at hbehind
        dsimp only at hbehind
        omega
      have hsum := addConstants_of_lt (a := '0' :: 'x' :: hop.offset.digits) hop.offset.spells
        (constant?_toString bus) hlt
      simp only [Option.map_some]
      rw [hm.addBus _ _ _ hsum, Nat.add_comm]
      simp [pathFrom, Topology.behind]

/-- The loop follows a path. -/
theorem resolveBridges_path (hm : Publishes m T) (segment : Segment) {a : Address}
    (ha : a.bus < 2 ^ 63) {hops : List Hop} (hrange : T.InRange segment a hops) :
    m.resolveBridges segment.digits (pathFrom a hops)
      = (T.follow segment a hops).map fun b => pathFrom b [] := by
  induction hops generalizing a with
  | nil =>
      have hhyphen : '-' ∉ pathFrom a [] := by
        rw [pathFrom, List.flatMap_nil, List.append_nil, List.mem_append, List.mem_cons]
        rintro (h | h | h)
        · exact notMem_of_isHex (isHex_printHex _) rfl h
        · cases h
        · exact a.slot.notMem_text rfl (by decide) h
      rw [resolveBridges_end hhyphen]
      rfl
  | cons hop hops ih =>
      have hhyphen : '-' ∈ pathFrom a (hop :: hops) := by
        rw [pathFrom_cons]
        simp
      rw [resolveBridges_step hhyphen, bridgeStep_pathFrom hm segment ha hop hops
        (fun bus hbus => (hrange bus hbus).1), Topology.follow]
      cases hsecondary : T.secondary segment a with
      | none => rfl
      | some bus =>
          obtain ⟨hbehind, hrest⟩ := hrange bus hsecondary
          exact ih hbehind hrest

/-! ## The kinds of names -/

/-- `[0-9a-f][0-9a-f][0-9a-f][0-9a-f]_*_*.*`. -/
abbrev segmentPattern : List Glob :=
  [.one isHex, .one isHex, .one isHex, .one isHex, lit '_', .star, lit '_', .star, lit '.', .star]

/-- `*_*.*`. -/
abbrev pathPattern : List Glob := [.star, lit '_', .star, lit '.', .star]

/-- `*:*:*.*`. -/
abbrev nameWithSegment : List Glob := [.star, lit ':', .star, lit ':', .star, lit '.', .star]

/-- `*:*.*`. -/
abbrev nameWithoutSegment : List Glob := [.star, lit ':', .star, lit '.', .star]

/-- A `*` and then a given character. -/
theorem globMatches_lit {c : Char} {rest : List Glob} {text : List Char} :
    globMatches (.star :: lit c :: rest) text = true ↔
      ∃ before after, text = before ++ c :: after ∧ globMatches rest after = true := by
  rw [lit, globMatches_star_one]
  constructor
  · rintro ⟨before, x, after, rfl, hx, hmatch⟩
    exact ⟨before, after, by rw [of_decide_eq_true hx], hmatch⟩
  · rintro ⟨before, after, rfl, hmatch⟩
    exact ⟨before, c, after, rfl, decide_eq_true rfl, hmatch⟩

/-- A slot and what follows it have a dot. -/
theorem globMatches_slot (slot : Slot) (after : List Char) :
    globMatches [.star, lit '.', .star] (slot.text ++ after) = true := by
  rw [globMatches_lit]
  exact ⟨slot.device, slot.function ++ after, by simp [Slot.text], globMatches_star _⟩

/-- The path of a device matches the pattern. -/
theorem globMatches_pathFrom (a : Address) (hops : List Hop) :
    globMatches pathPattern (pathFrom a hops) = true := by
  rw [pathPattern, globMatches_lit]
  exact ⟨printHex a.bus, a.slot.text ++ hops.flatMap Hop.text, by simp [pathFrom],
    globMatches_slot a.slot _⟩

/-- A segment before a path is seen. -/
theorem globMatches_segment (segment : Segment) (a : Address) (hops : List Hop) :
    globMatches segmentPattern (segment.digits ++ '_' :: pathFrom a hops) = true := by
  obtain ⟨digits, hlength, hhex⟩ := segment
  obtain ⟨c₁, c₂, c₃, c₄, rfl⟩ := List.length_eq_four.mp hlength
  simp only [List.forall_mem_cons] at hhex
  obtain ⟨h₁, h₂, h₃, h₄, -⟩ := hhex
  simp only [segmentPattern, List.cons_append, List.nil_append, globMatches, h₁, h₂, h₃, h₄,
    Bool.true_and]
  exact globMatches_pathFrom a hops

/-- A bus is not taken for a segment. -/
theorem not_globMatches_segment {a : Address} (ha : a.bus ≤ 0xff) (hops : List Hop) :
    ¬ globMatches segmentPattern (pathFrom a hops) = true := by
  obtain ⟨c₁, c₂, hbus⟩ := List.length_eq_two.mp (length_printHex ha)
  have hunderscore : isHex '_' = false := by decide
  rw [pathFrom, hbus]
  simp only [segmentPattern, List.cons_append, List.nil_append, globMatches, hunderscore,
    Bool.false_and, Bool.and_false]
  exact Bool.false_ne_true

/-- A text without a character that a pattern asks for. -/
theorem not_globMatches_of_notMem {text : List Char} {c : Char} (h : c ∉ text)
    (first rest : List Glob) : ¬ globMatches (first ++ lit c :: rest) text = true := by
  intro hmatch
  obtain ⟨x, hx, hc⟩ := exists_mem_of_globMatches hmatch
  rw [of_decide_eq_true hc] at hx
  exact h hx

/-- A name without an underscore is no path. -/
theorem not_path_of_notMem {text : List Char} (h : '_' ∉ text) :
    ¬ globMatches segmentPattern text = true ∧ ¬ globMatches pathPattern text = true :=
  ⟨not_globMatches_of_notMem h [.one isHex, .one isHex, .one isHex, .one isHex] _,
    not_globMatches_of_notMem h [.star] _⟩

/-! ## The resolution -/

/-- What is printed for a path that the loop has followed, and the status. -/
def resolved (segment : Segment) : Option Address → String × Nat
  | some b => (String.ofList (b.name segment), 0)
  | none => ("", 1)

/-- What is left of a path is written with a colon. -/
theorem name_of_pathFrom (segment : Segment) (b : Address) :
    segment.digits ++ ':' :: replaceChar '_' ':' (pathFrom b []) = b.name segment := by
  rw [pathFrom, List.flatMap_nil, List.append_nil, replaceChar_append
    (notMem_of_isHex (isHex_printHex _) rfl) (b.slot.notMem_text rfl (by decide))]
  rfl

/-- A path without a segment is one in the default segment. -/
theorem resolveDev_pathFrom (hm : Publishes m T) {a : Address} {hops : List Hop} (ha : a.bus ≤ 0xff)
    (hrange : T.InRange .default a hops) : m.resolveDev (String.ofList (pathFrom a hops))
      = resolved .default (T.follow .default a hops) := by
  have hdefault : "0000".toList = Segment.default.digits := by decide +kernel
  rw [resolveDev]
  dsimp only
  rw [String.toList_ofList, if_neg (not_globMatches_segment ha hops),
    if_pos (globMatches_pathFrom a hops), hdefault, resolveBridges_path hm .default (by omega) hrange]
  cases T.follow .default a hops with
  | none => rfl
  | some b =>
      simp only [Option.map_some, name_of_pathFrom]
      rfl

/-- A path with a segment. -/
theorem resolveDev_segment (hm : Publishes m T) {segment : Segment} {a : Address} {hops : List Hop}
    (ha : a.bus ≤ 0xff) (hrange : T.InRange segment a hops) :
    m.resolveDev (String.ofList (segment.digits ++ '_' :: pathFrom a hops))
      = resolved segment (T.follow segment a hops) := by
  have hunderscore : '_' ∉ segment.digits := notMem_of_isHex segment.isHex_digits rfl
  rw [resolveDev]
  dsimp only
  rw [String.toList_ofList, if_pos (globMatches_segment segment a hops), upTo_append hunderscore,
    removeThrough_append hunderscore, resolveBridges_path hm segment (by omega) hrange]
  cases T.follow segment a hops with
  | none => rfl
  | some b =>
      simp only [Option.map_some, name_of_pathFrom]
      rfl

/-- A path resolves to the device to which it leads, and to nothing if a bridge does not exist. -/
theorem resolveDev_path (hm : Publishes m T) (p : DevicePath) (hfirst : p.first.bus ≤ 0xff)
    (hrange : T.InRange p.segment p.first p.hops) :
    m.resolveDev (String.ofList p.text) = resolved p.segment (T.follow p.segment p.first p.hops) := by
  obtain ⟨segment?, first, hops⟩ := p
  cases segment? with
  | none => exact resolveDev_pathFrom hm hfirst hrange
  | some segment => exact resolveDev_segment hm hfirst hrange

/-- A name with a segment resolves to itself. -/
theorem resolveDev_name (m : Boot) (segment : Segment) (a : Address) :
    m.resolveDev (String.ofList (a.name segment)) = (String.ofList (a.name segment), 0) := by
  have hunderscore : '_' ∉ a.name segment := by
    rw [Address.name, List.mem_append, List.mem_cons]
    rintro (h | h | h)
    · exact notMem_of_isHex segment.isHex_digits rfl h
    · cases h
    · exact a.notMem_text rfl (by decide) (by decide) h
  have hmatch : globMatches nameWithSegment (a.name segment) = true := by
    rw [nameWithSegment, globMatches_lit]
    refine ⟨segment.digits, a.text, rfl, ?_⟩
    rw [globMatches_lit]
    exact ⟨printHex a.bus, a.slot.text, rfl, by simpa using globMatches_slot a.slot []⟩
  obtain ⟨hsegment, hpath⟩ := not_path_of_notMem hunderscore
  rw [resolveDev]
  dsimp only
  rw [String.toList_ofList, if_neg hsegment, if_neg hpath, if_pos hmatch]

/-- A name without a segment is in the default one. -/
theorem resolveDev_text (m : Boot) (a : Address) :
    m.resolveDev (String.ofList a.text) = (String.ofList (a.name .default), 0) := by
  have hmatch : globMatches nameWithoutSegment a.text = true := by
    rw [nameWithoutSegment, globMatches_lit]
    exact ⟨printHex a.bus, a.slot.text, rfl, by simpa using globMatches_slot a.slot []⟩
  have hsingle : ¬ globMatches nameWithSegment a.text = true := by
    intro h
    obtain ⟨before, after, htext, hrest⟩ := globMatches_lit.mp h
    -- there is only one colon
    have hbus : ':' ∉ printHex a.bus := notMem_of_isHex (isHex_printHex _) rfl
    have hslot : ':' ∉ a.slot.text := a.slot.notMem_text rfl (by decide)
    have hcolon : ':' ∈ after := by
      by_contra hnone
      exact not_globMatches_of_notMem hnone [.star] _ hrest
    have hcount := congrArg (List.count ':') htext
    rw [Address.text, List.count_append, List.count_append, List.count_cons_self,
      List.count_cons_self, List.count_eq_zero.mpr hbus, List.count_eq_zero.mpr hslot] at hcount
    have hpos := List.count_pos_iff.mpr hcolon
    omega
  obtain ⟨hsegment, hpath⟩ :=
    not_path_of_notMem (a.notMem_text (c := '_') rfl (by decide) (by decide))
  have hname : "0000:" ++ String.ofList a.text = String.ofList (a.name .default) := by
    have hdefault : "0000:".toList = Segment.default.digits ++ [':'] := by decide +kernel
    rw [← String.toList_inj, String.toList_append, hdefault, String.toList_ofList, String.toList_ofList,
      List.append_assoc]
    rfl
  rw [resolveDev]
  dsimp only
  rw [String.toList_ofList, if_neg hsegment, if_neg hpath, if_neg hsingle, if_pos hmatch, hname]

/-- A path resolves to the device to which it leads, and to nothing if a bridge does not exist; other
names of devices resolve to themselves, in the default segment if they name none; and the loop ends for
every text. -/
theorem resolveDev_follows (hm : Publishes m T) :
    (∀ p : DevicePath, p.first.bus ≤ 0xff → T.InRange p.segment p.first p.hops →
      m.resolveDev (String.ofList p.text)
        = match T.follow p.segment p.first p.hops with
          | some b => (String.ofList (b.name p.segment), 0)
          | none => ("", 1)) ∧
      (∀ a : Address, m.resolveDev (String.ofList a.text) = (String.ofList (a.name .default), 0)) ∧
      (∀ (segment : Segment) (a : Address),
        m.resolveDev (String.ofList (a.name segment)) = (String.ofList (a.name segment), 0)) ∧
      ∀ segment dev : List Char,
        m.loopRounds segment (dev.count '-') dev = some (m.resolveBridges segment dev) := by
  refine ⟨fun p hfirst hrange => ?_, resolveDev_text m, resolveDev_name m,
    fun segment dev => loopRounds_of_count_le (Nat.le_refl _)⟩
  exact resolveDev_path hm p hfirst hrange

/-! ## Two bridges -/

/-- The secondary buses of two bridges. -/
def bridgeTable (name : String) : Option Nat :=
  if name = "0000:00:1c.0" then some 2
  else if name = "0000:03:00.0" then some 16
  else none

/-- The topology with these bridges. -/
def twoBridges : Topology := ⟨fun segment a => bridgeTable (String.ofList (a.name segment))⟩

/-- A machine with these bridges. -/
def bridgedMachine : Boot where
  getarg := twoDevices.getarg
  getargbool := twoDevices.getargbool
  lspci := twoDevices.lspci
  secondaryBus name := (bridgeTable name).map toString
  addBus bus offset := addConstants ('0' :: 'x' :: bus.toList) offset.toList
  hypervisor := twoDevices.hypervisor
  dieStatus := twoDevices.dieStatus

/-- The machine of the example publishes the paths of its devices. -/
theorem publishes_bridgedMachine : Publishes bridgedMachine twoBridges := by
  refine ⟨fun _ _ _ => rfl, fun bus offset sum h => ?_⟩
  show addConstants ('0' :: 'x' :: (String.ofList bus).toList) offset.toList = some sum
  rw [String.toList_ofList]
  exact h

/-- One zero. -/
theorem isHex_zero : ∀ c ∈ ['0'], isHex c = true :=
  List.all_eq_true.mp (by decide)

/-- Two zeros. -/
theorem isHex_twoZeros : ∀ c ∈ ['0', '0'], isHex c = true :=
  List.all_eq_true.mp (by decide)

/-- The digits of the bridge of the example. -/
theorem isHex_bridge : ∀ c ∈ ['1', 'c'], isHex c = true :=
  List.all_eq_true.mp (by decide)

/-- The digits of one. -/
theorem numeral?_one : numeral? 16 ['0', '1'] = some 1 := by decide

/-- The digits of zero. -/
theorem numeral?_zero : numeral? 16 ['0', '0'] = some 0 := by decide

/-- `00.0`. -/
def slotZero : Slot := ⟨['0', '0'], ['0'], isHex_twoZeros, isHex_zero⟩

/-- The path through both bridges. -/
def throughBoth : DevicePath where
  segment? := none
  first := ⟨0, ⟨['1', 'c'], ['0'], isHex_bridge, isHex_zero⟩⟩
  hops := [⟨⟨['0', '1'], 1, numeral?_one⟩, slotZero⟩, ⟨⟨['0', '0'], 0, numeral?_zero⟩, slotZero⟩]

/-- A path through a bridge that does not exist. -/
def throughNone : DevicePath where
  segment? := none
  first := ⟨0, slotZero⟩
  hops := [⟨⟨['0', '1'], 1, numeral?_one⟩, slotZero⟩]

/-- The numbers of the longer path are in range. -/
theorem inRange_throughBoth :
    twoBridges.InRange throughBoth.segment throughBoth.first throughBoth.hops := by
  have hfirst : twoBridges.secondary throughBoth.segment throughBoth.first = some 2 := by
    decide +kernel
  have hsecond : twoBridges.secondary throughBoth.segment ⟨3, slotZero⟩ = some 16 := by
    decide +kernel
  intro bus hbus
  obtain rfl : 2 = bus := Option.some.inj (hfirst.symm.trans hbus)
  refine ⟨by decide, fun bus hbus => ?_⟩
  obtain rfl : 16 = bus := Option.some.inj (hsecond.symm.trans hbus)
  exact ⟨by decide, trivial⟩

/-- So are those of the path without bridges. -/
theorem inRange_throughNone :
    twoBridges.InRange throughNone.segment throughNone.first throughNone.hops := by
  have hnone : twoBridges.secondary throughNone.segment throughNone.first = none := by decide +kernel
  intro bus hbus
  cases hnone.symm.trans hbus

/-- The device behind both bridges is on the secondary bus of the second one; without the bridge, there
is no output. -/
theorem resolveDev_follows_bridges :
    bridgedMachine.resolveDev "00_1c.0-01_00.0-00_00.0" = ("0000:10:00.0", 0) ∧
      bridgedMachine.resolveDev "00_00.0-01_00.0" = ("", 1) := by
  have hpaths := (resolveDev_follows publishes_bridgedMachine).1
  have htexts : "00_1c.0-01_00.0-00_00.0" = String.ofList throughBoth.text ∧
      "00_00.0-01_00.0" = String.ofList throughNone.text := by decide +kernel
  rw [htexts.1, htexts.2, hpaths throughBoth (by decide) inRange_throughBoth,
    hpaths throughNone (by decide) inRange_throughNone]
  decide +kernel

end PciBack

end QubesAdminLinux
