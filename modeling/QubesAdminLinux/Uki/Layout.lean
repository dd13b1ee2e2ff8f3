import QubesAdminLinux.Uki.Overlap

/-! # The layout of the new sections

The new sections of a unified kernel image are placed one after the other.  An address that is too large
ends the program before it runs `objcopy`.

* **`LaidOut`** — a layout of the sections in their order, as tight as the alignment allows.
* **`addSections_outcome`** — adding sections ends with the overflow error or places all of them.
* **`addedSections_laidOut`** — so every image that is written has such a layout. -/

namespace QubesAdminLinux

namespace UkiGenerate

/-- The error about an address that is too large. -/
def overflow (f : Nat) : Failure :=
  .exit 1 ("Fatal error: Address overflow: " ++ toString f ++ " exceeds " ++ toString maxAddress)

/-- A host on which the files have the given sizes. -/
def hostWith (checkOutput : List String → Except Int Bytes) (sizes : String → Nat) : Host :=
  ⟨checkOutput, fun path => some (sizes path)⟩

/-- The last address is the last multiple of 2 MiB below 2⁶⁴. -/
theorem maxAddress_eq : maxAddress = 2 ^ 64 - 2 ^ 21 := by decide

/-- Sections are aligned to 2 MiB. -/
theorem alignmentMask_succ : alignmentMask + 1 = 2 ^ 21 := by decide

/-- The highest address of 64 bits that is a multiple of 2 MiB. -/
theorem isGreatest_maxAddress :
    IsGreatest {address | 2 ^ 21 ∣ address ∧ address < 2 ^ 64} maxAddress := by
  rw [maxAddress_eq]
  refine ⟨⟨by decide, by decide⟩, ?_⟩
  rintro address ⟨⟨k, rfl⟩, hlt⟩
  omega

/-- New sections at their addresses, for files of the given sizes. -/
structure LaidOut (sizes : String → Nat) (baseAddr : Nat) (sections : List (String × String))
    (added : List AddedSection) : Prop where
  /-- All sections are there, in their order. -/
  order : added.map (fun s => (s.sectionName, s.path)) = sections
  /-- They start at multiples of 2 MiB. -/
  aligned : ∀ s ∈ added, 2 ^ 21 ∣ s.address
  /-- None starts above the highest such address. -/
  bounded : ∀ s ∈ added, s.address ≤ maxAddress
  /-- None starts below the base address. -/
  fromBase : ∀ s ∈ added, baseAddr ≤ s.address
  /-- A section ends before the later ones start. -/
  apart : added.Pairwise fun a b => a.address + sizes a.path ≤ b.address
  /-- No two sections have an address in common. -/
  disjoint : added.Pairwise fun a b =>
    Disjoint (Set.Ico a.address (a.address + sizes a.path)) (Set.Ico b.address (b.address + sizes b.path))
  /-- Each starts as early as possible after the one in front of it, the first one after the base. -/
  least : List.IsChain
    (fun a b : Block => IsLeast {address | 2 ^ 21 ∣ address ∧ a.stop ≤ address} b.start)
    (⟨baseAddr, 0⟩ :: added.map fun s => ⟨s.address, sizes s.path⟩)

variable {checkOutput : List String → Except Int Bytes} {sizes : String → Nat}

/-- An address is too large, or is rounded up to one that is not. -/
theorem roundToNext_outcome (f : Nat) :
    (maxAddress < f ∧ roundToNext f = .error (overflow f)) ∨
      (roundToNext f = .ok (alignUp (alignmentMask + 1) f) ∧
        alignUp (alignmentMask + 1) f ≤ maxAddress) := by
  by_cases hf : f > maxAddress
  · left
    refine ⟨hf, ?_⟩
    rw [roundToNext, if_pos hf]
    rfl
  · right
    have hdvd : alignmentMask + 1 ∣ maxAddress := by decide
    have hle := (alignUp_le_iff alignment_pos hdvd).mpr (Nat.le_of_not_gt hf)
    refine ⟨?_, hle⟩
    have hround : ∃ address, roundToNext f = .ok address := by
      rw [roundToNext, if_neg hf]
      exact ⟨_, rfl⟩
    obtain ⟨address, haddress⟩ := hround
    rw [haddress, roundToNext_eq_ok haddress]

/-- Adding sections ends with the overflow error, or places all of them at addresses that are not too
large. -/
theorem addSections_outcome (adder : SectionAdder) (sections : List (String × String)) :
    (∃ f, maxAddress < f ∧
      adder.addSections (hostWith checkOutput sizes) sections = .error (overflow f)) ∨
    ∃ adder', adder.addSections (hostWith checkOutput sizes) sections = .ok adder' ∧
      adder'.sections.map (fun s => (s.sectionName, s.path))
        = adder.sections.map (fun s => (s.sectionName, s.path)) ++ sections ∧
      ∀ b ∈ place (alignmentMask + 1) adder.address (sections.map fun s => sizes s.2),
        b.start ≤ maxAddress := by
  induction sections generalizing adder with
  | nil =>
      refine Or.inr ⟨adder, rfl, (List.append_nil _).symm, fun b hb => ?_⟩
      cases hb
  | cons s rest ih =>
      obtain ⟨sectionName, path⟩ := s
      rw [SectionAdder.addSections, SectionAdder.addSection]
      rcases roundToNext_outcome adder.address with ⟨hlarge, herror⟩ | ⟨hok, hsmall⟩
      · rw [herror]
        exact Or.inl ⟨adder.address, hlarge, rfl⟩
      · rw [hok]
        have hrest := ih ⟨alignUp (alignmentMask + 1) adder.address + sizes path, adder.sections ++
          [⟨sectionName, path, alignUp (alignmentMask + 1) adder.address⟩]⟩
        rcases hrest with ⟨f, hlarge, herror⟩ | ⟨adder', hadder', horder, hbound⟩
        · exact Or.inl ⟨f, hlarge, herror⟩
        · refine Or.inr ⟨adder', hadder', ?_, ?_⟩
          · rw [horder, List.map_append, List.append_assoc]
            rfl
          · rw [List.map_cons, place, List.forall_mem_cons]
            exact ⟨hsmall, hbound⟩

/-- The sections that are placed from the base address on are laid out. -/
theorem laidOut_of_place {baseAddr : Nat} {sections : List (String × String)}
    {added : List AddedSection} (horder : added.map (fun s => (s.sectionName, s.path)) = sections)
    (hblocks : added.map (fun s => Block.mk s.address (sizes s.path))
      = place (alignmentMask + 1) baseAddr (sections.map fun s => sizes s.2))
    (hbound : ∀ b ∈ place (alignmentMask + 1) baseAddr (sections.map fun s => sizes s.2),
      b.start ≤ maxAddress) :
    LaidOut sizes baseAddr sections added := by
  have hmem : ∀ s ∈ added, (⟨s.address, sizes s.path⟩ : Block)
      ∈ place (alignmentMask + 1) baseAddr (sections.map fun s => sizes s.2) := by
    intro s hs
    rw [← hblocks]
    exact List.mem_map_of_mem hs
  have hapart : added.Pairwise fun a b => a.address + sizes a.path ≤ b.address := by
    have hplace := pairwise_place alignment_pos baseAddr (sections.map fun s => sizes s.2)
    rw [← hblocks, List.pairwise_map] at hplace
    exact hplace
  refine ⟨horder, fun s hs => ?_, fun s hs => hbound _ (hmem s hs), fun s hs => ?_, hapart, ?_, ?_⟩
  · rw [← alignmentMask_succ]
    exact dvd_start_of_mem_place (hmem s hs)
  · exact (le_alignUp alignment_pos baseAddr).trans (le_start_of_mem_place alignment_pos (hmem s hs))
  · refine hapart.imp fun {a b} hle => ?_
    rw [Set.Ico_disjoint_Ico]
    omega
  · have hchain := isChain_place alignment_pos ⟨baseAddr, 0⟩ (sections.map fun s => sizes s.2)
    rw [alignmentMask_succ] at hchain
    rw [hblocks]
    exact hchain

/-- For all base addresses, custom sections and sizes of the files, adding the sections ends with the
overflow error or lays them out, up to the highest multiple of 2 MiB that has 64 bits.  The program ends with
this error, or calls `objcopy` with sections that are laid out from the largest number in the section table
on, which has 64 bits. -/
theorem addedSections_laidOut (checkOutput : List String → Except Int Bytes) (sizes : String → Nat)
    (args : UkiArgs) :
    IsGreatest {address | 2 ^ 21 ∣ address ∧ address < 2 ^ 64} maxAddress ∧
    (∀ baseAddr,
      (∃ f, maxAddress < f ∧
        addedSections (hostWith checkOutput sizes) args baseAddr = .error (overflow f)) ∨
      ∃ adder, addedSections (hostWith checkOutput sizes) args baseAddr = .ok adder ∧
        LaidOut sizes baseAddr args.sections adder.sections) ∧
    ∀ hyp out output, withDirectory args.hypervisor = .ok hyp → withDirectory args.output = .ok out →
      checkOutput (objdumpCommand hyp) = .ok output →
      maxVma (hypervisorSections output) < 2 ^ 64 ∧
      ((∃ f, maxAddress < f ∧ main (hostWith checkOutput sizes) args = .error (overflow f)) ∨
      ∃ adder, main (hostWith checkOutput sizes) args = .ok ⟨adder, hyp, out⟩ ∧
        LaidOut sizes (maxVma (hypervisorSections output)) args.sections adder.sections) := by
  have hadded : ∀ baseAddr,
      (∃ f, maxAddress < f ∧
        addedSections (hostWith checkOutput sizes) args baseAddr = .error (overflow f)) ∨
      ∃ adder, addedSections (hostWith checkOutput sizes) args baseAddr = .ok adder ∧
        LaidOut sizes baseAddr args.sections adder.sections := by
    intro baseAddr
    rw [addedSections_eq]
    rcases @addSections_outcome checkOutput sizes ⟨baseAddr, []⟩ args.sections with
      herror | ⟨adder, hok, horder, hbound⟩
    · exact Or.inl herror
    · have hblocks := SectionAdder.blocks_addSections hok
      exact Or.inr ⟨adder, hok, laidOut_of_place horder hblocks hbound⟩
  refine ⟨isGreatest_maxAddress, hadded, fun hyp out output hhyp hout hdump => ⟨maxVma_lt output, ?_⟩⟩
  have hmain : main (hostWith checkOutput sizes) args
      = addedSections (hostWith checkOutput sizes) args (maxVma (hypervisorSections output))
        >>= fun adder => .ok ⟨adder, hyp, out⟩ := by
    have hreply : (hostWith checkOutput sizes).checkOutput (objdumpCommand hyp) = .ok output := hdump
    rw [main, hhyp, hout]
    change (((hostWith checkOutput sizes).checkOutput (objdumpCommand hyp)).mapError
      Failure.calledProcessError >>= _) = _
    rw [hreply]
    rfl
  rw [hmain]
  rcases hadded (maxVma (hypervisorSections output)) with ⟨f, hlarge, herror⟩ | ⟨adder, hok, hlaid⟩
  · rw [herror]
    exact Or.inl ⟨f, hlarge, rfl⟩
  · rw [hok]
    exact Or.inr ⟨adder, rfl, hlaid⟩

/-- A command line with a custom section. -/
def customArgs : UkiArgs := ⟨"/boot/xen.efi", "/boot/xen.cfg", "/boot/vmlinuz", "/boot/initramfs",
  "uki.efi", [("microcode", "/boot/ucode")]⟩

/-- The layout for a boot directory with one custom section, above a section of the hypervisor at 2 MiB. -/
theorem addedSections_laidOut_boot :
    (∃ f, maxAddress < f ∧ main (hostWith (fun _ => .ok smallImage) fun _ => 5) customArgs
        = .error (overflow f)) ∨
      ∃ adder, main (hostWith (fun _ => .ok smallImage) fun _ => 5) customArgs
          = .ok ⟨adder, "/boot/xen.efi", "./uki.efi"⟩ ∧
        LaidOut (fun _ => 5) (maxVma (hypervisorSections smallImage)) customArgs.sections adder.sections :=
  (addedSections_laidOut (fun _ => .ok smallImage) (fun _ => 5) customArgs).2.2 _ _ _ rfl rfl rfl |>.2

end UkiGenerate

end QubesAdminLinux
