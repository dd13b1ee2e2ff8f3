import QubesAdminLinux.Lib.Pattern
import QubesAdminLinux.Lib.Placement
import QubesAdminLinux.Lib.StateExcept
import QubesAdminLinux.Lib.Text

/-! # Generating a unified kernel image

`uki-generate` adds the configuration, the dom0 kernel and its initramfs as sections to the image of
the hypervisor.  It asks `objdump` for the sections that are already there, computes an address for
each new one, and leaves the work to `objcopy`.

* **`hypervisorSections`** — the sections that are read from the output of `objdump`.
* **`SectionAdder`** — the addresses of the new sections; `blocks_addSections` says that they are a
  placement of blocks from the base address on.
* **`UkiGenerate.main`** — the program up to the call of `objcopy`; `main_eq_ok` says what it calls.
* **`maxVma_le_iff`, `maxVma_lt`** — the largest number in the section table. -/

namespace QubesAdminLinux

namespace UkiGenerate

/-! ## The section table -/

/-- A byte of an inclusive range of ASCII characters. -/
def between (first last : Char) (b : UInt8) : Bool :=
  first.toNat ≤ b.toNat && b.toNat ≤ last.toNat

/-- A space. -/
def isBlank (b : UInt8) : Bool := b.toNat = ' '.toNat

/-- `[0-9a-f]`. -/
def isHexDigit (b : UInt8) : Bool := between '0' '9' b || between 'a' 'f' b

/-- ` +`, followed by an expression. -/
def spaced (inner : Pattern UInt8) : Pattern UInt8 := .seq (.plus isBlank) inner

/-- `section_re`: index, name, size, VMA, LMA, file offset and the start of the alignment. -/
def sectionRe : Pattern UInt8 :=
  .seq (.star isBlank) <|
  .seq (.either (.one (between '0' '0')) (.seq (.one (between '1' '9')) (.star (between '0' '9')))) <|
  .seq (spaced (.group (.plus (between '!' '~')))) <|
  .seq (spaced (.group (.exactly isHexDigit 8))) <|
  .seq (spaced (.group (.exactly isHexDigit 16))) <|
  .seq (spaced (.exactly isHexDigit 16)) <|
  .seq (spaced (.exactly isHexDigit 8)) <|
  spaced (.one (between '2' '2'))

/-- The value of a hexadecimal digit. -/
def hexValue (b : UInt8) : Nat :=
  if between '0' '9' b then b.toNat - '0'.toNat else b.toNat - 'a'.toNat + 10

/-- `int(digits, 16)`. -/
def hexNat (digits : Bytes) : Nat := digits.foldl (fun n b => 16 * n + hexValue b) 0

/-- A section of the hypervisor. -/
structure Section where
  /-- Its name. -/
  name : Bytes
  /-- Its size and its virtual address. -/
  block : Block
  deriving DecidableEq, Repr

/-- A line of the section table. -/
def readSection (line : Bytes) : Option Section :=
  match sectionRe.match? line with
  | some [name, size, startVma] => some ⟨name, ⟨hexNat startVma, hexNat size⟩⟩
  | _ => none

/-- `section_name.startswith(b".annobin")`. -/
def Section.isAnnobin (s : Section) : Bool := (encodeAscii ".annobin").isPrefixOf s.name

/-- The sections in the output of `objdump`, except those that `objcopy` removes. -/
def hypervisorSections (output : Bytes) : List Section :=
  ((splitByteLines output).filterMap readSection).filter fun s => !s.isAnnobin

/-- `max_vma`: the comma makes the size an argument of its own. -/
def maxVma (sections : List Section) : Nat :=
  sections.foldl (fun maxVma s => max maxVma (max s.block.size s.block.start)) 0

/-! ## The new sections -/

/-- `alignment_mask`. -/
def alignmentMask : Nat := (1 <<< 21) - 1

/-- `n & ~mask`. -/
def andNot (n mask : Nat) : Nat := n - (n &&& mask)

/-- `max_address`. -/
def maxAddress : Nat := andNot 0xffffffffffffffff alignmentMask

/-- Why the program ends before it runs `objcopy`. -/
inductive Failure
  /-- The first character of an empty path. -/
  | indexError
  /-- `objdump` fails with an exit code, which becomes that of the program. -/
  | calledProcessError (returncode : Int)
  /-- `sys.exit`, after printing a message. -/
  | exit (code : Int) (message : String)
  /-- `os.stat` raises. -/
  | osError (path : String)
  deriving DecidableEq, Repr

/-- `round_to_next`. -/
def roundToNext (f : Nat) : Except Failure Nat :=
  if f > maxAddress then
    .error (.exit 1 ("Fatal error: Address overflow: " ++ toString f ++ " exceeds "
      ++ toString maxAddress))
  else .ok (andNot (f + alignmentMask) alignmentMask)

/-- What the program asks for. -/
structure Host where
  /-- `subprocess.check_output`: the output of a command, or its exit code. -/
  checkOutput : List String → Except Int Bytes
  /-- `os.stat(path).st_size`, if there is such a file. -/
  fileSize : String → Option Nat

/-- The size of a file; 0 if there is none. -/
def Host.sizeOf (host : Host) (path : String) : Nat := (host.fileSize path).getD 0

/-- A section to be added. -/
structure AddedSection where
  /-- Its name, without the dot. -/
  sectionName : String
  /-- The file with its contents. -/
  path : String
  /-- Its virtual address. -/
  address : Nat
  deriving DecidableEq, Repr

/-- The addresses that a section takes. -/
def AddedSection.block (host : Host) (s : AddedSection) : Block := ⟨s.address, host.sizeOf s.path⟩

/-- A `SectionAdder`. -/
structure SectionAdder where
  /-- `_address`: where the next section may start. -/
  address : Nat
  /-- `_args`: for each section, its two arguments give its name, its file and its address. -/
  sections : List AddedSection := []
  deriving DecidableEq, Repr

namespace SectionAdder

/-- `add_section`. -/
def addSection (adder : SectionAdder) (host : Host) (sectionName path : String) :
    Except Failure SectionAdder := do
  let address ← roundToNext adder.address
  match host.fileSize path with
  | none => .error (.osError path)
  | some size => .ok ⟨address + size, adder.sections ++ [⟨sectionName, path, address⟩]⟩

/-- The loop over the custom sections. -/
def addSections (adder : SectionAdder) (host : Host) :
    List (String × String) → Except Failure SectionAdder
  | [] => .ok adder
  | (sectionName, path) :: rest => do
      let adder ← adder.addSection host sectionName path
      adder.addSections host rest

end SectionAdder

/-! ## The program -/

/-- The parsed command line. -/
structure UkiArgs where
  /-- The image of Xen. -/
  hypervisor : String
  /-- The configuration of Xen. -/
  config : String
  /-- The dom0 kernel. -/
  kernel : String
  /-- Its initramfs. -/
  initramfs : String
  /-- Where the image is saved. -/
  output : String
  /-- Names and files of custom sections, placed right before the kernel. -/
  customSection : List (String × String) := []

/-- The names and files of the new sections, in their order. -/
def UkiArgs.sections (args : UkiArgs) : List (String × String) :=
  ("config", args.config) ::
    (args.customSection ++ [("kernel", args.kernel), ("ramdisk", args.initramfs)])

/-- The call of `objcopy`. -/
structure ObjcopyCall where
  /-- The new sections. -/
  adder : SectionAdder
  /-- The image that is read. -/
  hyp : String
  /-- The image that is written. -/
  out : String
  deriving DecidableEq, Repr

/-- A relative path gets a directory, so that it is not taken for an option. -/
def withDirectory (path : String) : Except Failure String :=
  match path.toList with
  | [] => .error .indexError
  | c :: _ => .ok (if c ≠ '/' then "./" ++ path else path)

/-- The command that lists the sections of an image. -/
def objdumpCommand (hyp : String) : List String := ["objdump", "-WE", "--section-headers", "--", hyp]

/-- `main`, from the `SectionAdder` on. -/
def addedSections (host : Host) (args : UkiArgs) (baseAddr : Nat) : Except Failure SectionAdder := do
  let adder : SectionAdder := ⟨baseAddr, []⟩
  let adder ← adder.addSection host "config" args.config
  let adder ← adder.addSections host args.customSection
  let adder ← adder.addSection host "kernel" args.kernel
  adder.addSection host "ramdisk" args.initramfs

/-- `main`, up to the call of `objcopy`. -/
def main (host : Host) (args : UkiArgs) : Except Failure ObjcopyCall := do
  let hyp ← withDirectory args.hypervisor
  let out ← withDirectory args.output
  let output ← (host.checkOutput (objdumpCommand hyp)).mapError Failure.calledProcessError
  let adder ← addedSections host args (maxVma (hypervisorSections output))
  .ok ⟨adder, hyp, out⟩

/-! ## Numbers in the section table -/

/-- A hexadecimal digit is smaller than 16. -/
theorem hexValue_lt {b : UInt8} (h : isHexDigit b = true) : hexValue b < 16 := by
  simp only [isHexDigit, between, Bool.or_eq_true, Bool.and_eq_true, decide_eq_true_eq] at h
  have hzero : '0'.toNat = 48 := rfl
  have hnine : '9'.toNat = 57 := rfl
  have ha : 'a'.toNat = 97 := rfl
  have hf : 'f'.toNat = 102 := rfl
  rw [hexValue, between]
  split
  · rename_i hdigit
    simp only [Bool.and_eq_true, decide_eq_true_eq] at hdigit
    omega
  · rename_i hdigit
    simp only [Bool.and_eq_true, decide_eq_true_eq] at hdigit
    omega

/-- A number with `n` hexadecimal digits. -/
theorem hexNat_lt {digits : Bytes} (h : ∀ b ∈ digits, isHexDigit b = true) :
    hexNat digits < 16 ^ digits.length := by
  -- the digits are read from the left, on top of those read before
  have hfold : ∀ start : Nat, digits.foldl (fun n b => 16 * n + hexValue b) start
      < 16 ^ digits.length * (start + 1) := by
    induction digits with
    | nil =>
        intro start
        simp
    | cons b rest ih =>
        intro start
        rw [List.forall_mem_cons] at h
        have hb := hexValue_lt h.1
        have hrest := ih h.2 (16 * start + hexValue b)
        have hle : 16 ^ rest.length * (16 * start + hexValue b + 1)
            ≤ 16 ^ rest.length * (16 * (start + 1)) := Nat.mul_le_mul_left _ (by omega)
        rw [List.foldl_cons, List.length_cons, pow_succ, mul_assoc]
        exact lt_of_lt_of_le hrest hle
  have hall := hfold 0
  rwa [Nat.zero_add, Nat.mul_one] at hall

/-- Spaces in front of an expression belong to no group. -/
theorem matches_of_spaced {inner : Pattern UInt8} {taken : Bytes} {groups : List Bytes}
    (h : Pattern.Matches (spaced inner) taken groups) :
    ∃ taken', Pattern.Matches inner taken' groups := by
  obtain ⟨_, taken₂, _, groups₂, hblank, hinner, -, rfl⟩ := h.of_seq
  rw [(Pattern.Matches.of_run hblank).1]
  exact ⟨taken₂, hinner⟩

/-- A number with `n` digits between spaces. -/
theorem hexNat_lt_of_matches {n : Nat} {taken : Bytes} {groups : List Bytes}
    (h : Pattern.Matches (spaced (.group (.exactly isHexDigit n))) taken groups) :
    ∃ digits, groups = [digits] ∧ hexNat digits < 16 ^ n := by
  obtain ⟨digits, hgroup⟩ := matches_of_spaced h
  obtain ⟨groups', rfl, hrun⟩ := hgroup.of_group
  obtain ⟨rfl, hall, -, hmost⟩ := Pattern.Matches.of_run hrun
  have hlt := hexNat_lt hall
  have hle : 16 ^ digits.length ≤ 16 ^ n := Nat.pow_le_pow_right (by decide) (hmost n rfl)
  exact ⟨digits, rfl, lt_of_lt_of_le hlt hle⟩

/-- The index of a section is not remembered. -/
theorem groups_of_index {taken : Bytes} {groups : List Bytes}
    (h : Pattern.Matches (.either (.one (between '0' '0'))
      (.seq (.one (between '1' '9')) (.star (between '0' '9')))) taken groups) : groups = [] := by
  cases h with
  | left hzero => exact (Pattern.Matches.of_run hzero).1
  | right hdigits =>
      obtain ⟨_, _, _, _, hfirst, hothers, -, rfl⟩ := hdigits.of_seq
      rw [(Pattern.Matches.of_run hfirst).1, (Pattern.Matches.of_run hothers).1, List.append_nil]

/-- Sizes have 32 bits, addresses 64. -/
theorem bounds_of_readSection {line : Bytes} {s : Section} (h : readSection line = some s) :
    s.block.size < 2 ^ 32 ∧ s.block.start < 2 ^ 64 := by
  rw [readSection] at h
  split at h
  · rename_i name size startVma hmatch
    cases h
    obtain ⟨_, _, -, hmatches⟩ := Pattern.matches_of_match? hmatch
    -- the groups are those of the third, fourth and fifth part
    obtain ⟨_, _, _, _, hblank, hrest, -, hgroups⟩ := hmatches.of_seq
    rw [(Pattern.Matches.of_run hblank).1, List.nil_append] at hgroups
    obtain ⟨_, _, _, _, hindex, hrest₁, -, rfl⟩ := hrest.of_seq
    rw [groups_of_index hindex, List.nil_append] at hgroups
    obtain ⟨_, _, _, _, hname, hrest₂, -, rfl⟩ := hrest₁.of_seq
    obtain ⟨_, hgroup⟩ := matches_of_spaced hname
    obtain ⟨_, rfl, hvisible⟩ := hgroup.of_group
    rw [(Pattern.Matches.of_run hvisible).1] at hgroups
    obtain ⟨_, _, _, _, hsize, hrest₃, -, rfl⟩ := hrest₂.of_seq
    obtain ⟨_, rfl, hsizeLt⟩ := hexNat_lt_of_matches hsize
    obtain ⟨_, _, _, _, hstart, -, -, rfl⟩ := hrest₃.of_seq
    obtain ⟨_, rfl, hstartLt⟩ := hexNat_lt_of_matches hstart
    simp only [List.cons_append, List.nil_append, List.cons.injEq] at hgroups
    obtain ⟨rfl, rfl, rfl, -⟩ := hgroups
    exact ⟨lt_of_lt_of_eq hsizeLt (by decide), lt_of_lt_of_eq hstartLt (by decide)⟩
  · cases h

/-- The largest number is the least upper bound. -/
theorem maxVma_le_iff (sections : List Section) (bound : Nat) :
    maxVma sections ≤ bound ↔ ∀ s ∈ sections, s.block.size ≤ bound ∧ s.block.start ≤ bound := by
  have hfold : ∀ start : Nat,
      sections.foldl (fun maxVma s => max maxVma (max s.block.size s.block.start)) start ≤ bound
        ↔ start ≤ bound ∧ ∀ s ∈ sections, s.block.size ≤ bound ∧ s.block.start ≤ bound := by
    induction sections with
    | nil => simp
    | cons s rest ih =>
        intro start
        rw [List.foldl_cons, ih, max_le_iff, max_le_iff, List.forall_mem_cons, and_assoc]
  have hall := hfold 0
  simpa [maxVma] using hall

/-- Each section starts at or below it. -/
theorem start_le_maxVma {sections : List Section} {s : Section} (h : s ∈ sections) :
    s.block.start ≤ maxVma sections :=
  ((maxVma_le_iff sections _).mp le_rfl s h).2

/-- The base address has 64 bits, also before it is rounded up. -/
theorem maxVma_lt (output : Bytes) : maxVma (hypervisorSections output) < 2 ^ 64 := by
  have hle : maxVma (hypervisorSections output) ≤ 2 ^ 64 - 1 := by
    rw [maxVma_le_iff]
    intro s hs
    obtain ⟨hs, -⟩ := List.mem_filter.mp hs
    obtain ⟨line, -, hread⟩ := List.mem_filterMap.mp hs
    have hbounds := bounds_of_readSection hread
    omega
  omega

/-! ## Addresses -/

/-- The mask rounds down to a multiple of 2 MiB. -/
theorem andNot_alignmentMask (n : Nat) : andNot n alignmentMask = n / 2 ^ 21 * 2 ^ 21 := by
  have hmask : alignmentMask = 2 ^ 21 - 1 := rfl
  rw [andNot, hmask, Nat.and_two_pow_sub_one_eq_mod]
  have hdiv := Nat.div_add_mod' n (2 ^ 21)
  omega

/-- An address that is small enough is rounded up. -/
theorem roundToNext_eq_ok {f address : Nat} (h : roundToNext f = .ok address) :
    address = alignUp (alignmentMask + 1) f := by
  rw [roundToNext] at h
  split at h
  · cases h
  · cases h
    have hunit : alignmentMask + 1 = 2 ^ 21 := by simp [alignmentMask]
    have hpred : f + (alignmentMask + 1) - 1 = f + alignmentMask := by
      rw [← Nat.add_assoc, Nat.add_sub_cancel]
    rw [andNot_alignmentMask, alignUp, Nat.ceilDiv_eq_add_pred_div, hpred, hunit, Nat.mul_comm]

namespace SectionAdder

variable {adder adder' : SectionAdder} {host : Host}

/-- The addresses that the sections take. -/
def blocks (adder : SectionAdder) (host : Host) : List Block :=
  adder.sections.map (AddedSection.block host)

/-- A section that is added starts at the next multiple of the alignment. -/
theorem addSection_eq_ok {sectionName path : String}
    (h : adder.addSection host sectionName path = .ok adder') :
    adder' = ⟨alignUp (alignmentMask + 1) adder.address + host.sizeOf path, adder.sections ++
      [⟨sectionName, path, alignUp (alignmentMask + 1) adder.address⟩]⟩ := by
  rw [addSection] at h
  cases hround : roundToNext adder.address with
  | error failure =>
      rw [hround] at h
      cases h
  | ok address =>
      rw [hround] at h
      change (match host.fileSize path with
        | none => _
        | some size => _) = _ at h
      split at h
      · cases h
      · rename_i size hsize
        cases h
        rw [roundToNext_eq_ok hround, Host.sizeOf, hsize, Option.getD_some]

/-- Adding sections places blocks of the sizes of their files. -/
theorem blocks_addSections {sections : List (String × String)}
    (h : adder.addSections host sections = .ok adder') :
    adder'.blocks host = adder.blocks host
      ++ place (alignmentMask + 1) adder.address (sections.map fun s => host.sizeOf s.2) := by
  induction sections generalizing adder with
  | nil =>
      cases h
      simp [place]
  | cons s rest ih =>
      obtain ⟨sectionName, path⟩ := s
      rw [addSections, bind_eq_ok] at h
      obtain ⟨adder₁, hadd, hrest⟩ := h
      have hblocks := ih hrest
      rw [addSection_eq_ok hadd] at hblocks
      rw [hblocks, List.map_cons, place]
      simp [blocks, AddedSection.block]

/-- Lists of sections are added one after the other. -/
theorem addSections_append (sections sections' : List (String × String)) :
    adder.addSections host (sections ++ sections')
      = adder.addSections host sections >>= fun adder => adder.addSections host sections' := by
  induction sections generalizing adder with
  | nil => rfl
  | cons s rest ih =>
      obtain ⟨sectionName, path⟩ := s
      rw [List.cons_append, addSections, addSections, bind_assoc]
      congr 1
      funext adder₁
      exact ih

end SectionAdder

/-- The steps of the program are one addition of all sections. -/
theorem addedSections_eq (host : Host) (args : UkiArgs) (baseAddr : Nat) :
    addedSections host args baseAddr
      = (SectionAdder.mk baseAddr []).addSections host args.sections := by
  have hone : ∀ (adder : SectionAdder) (sectionName path : String),
      adder.addSections host [(sectionName, path)] = adder.addSection host sectionName path := by
    intro adder sectionName path
    rw [SectionAdder.addSections]
    cases adder.addSection host sectionName path <;> rfl
  rw [addedSections, UkiArgs.sections, SectionAdder.addSections]
  simp only [SectionAdder.addSections_append]
  congr 1
  funext adder
  congr 1
  funext adder
  rw [SectionAdder.addSections]
  simp only [hone]

/-- The program calls `objcopy` with the sections placed from the largest number in the section table
on. -/
theorem main_eq_ok {host : Host} {args : UkiArgs} {call : ObjcopyCall}
    (h : main host args = .ok call) :
    ∃ output, host.checkOutput (objdumpCommand call.hyp) = .ok output ∧
      call.adder.blocks host = place (alignmentMask + 1) (maxVma (hypervisorSections output))
        (args.sections.map fun s => host.sizeOf s.2) := by
  rw [main, bind_eq_ok] at h
  obtain ⟨hyp, -, h⟩ := h
  obtain ⟨out, -, h⟩ := bind_eq_ok.mp h
  obtain ⟨output, hdump, h⟩ := bind_eq_ok.mp h
  obtain ⟨adder, hadd, h⟩ := bind_eq_ok.mp h
  cases h
  refine ⟨output, ?_, ?_⟩
  · cases hreply : host.checkOutput (objdumpCommand hyp) with
    | error returncode =>
        rw [hreply] at hdump
        cases hdump
    | ok output' =>
        rw [hreply] at hdump
        cases hdump
        rfl
  · rw [addedSections_eq] at hadd
    exact SectionAdder.blocks_addSections hadd

end UkiGenerate

end QubesAdminLinux
