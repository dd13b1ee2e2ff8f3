import QubesAdminLinux.Uki.Generate

/-! # The new sections and those of the hypervisor

Nothing that is added to a unified kernel image may be loaded over the hypervisor.

* **`ObjcopyCall.KeepsClear`** — the addresses of every new section are free.
* **`EndsBeforeBoundary`** — no multiple of the alignment separates the starts and sizes of the
  sections of the hypervisor from their ends.
* **`main_keepsClear_iff`** — the first holds if and only if the second does, or all files are
  empty. -/

namespace QubesAdminLinux

namespace UkiGenerate

/-- No new section takes an address of one of the given sections. -/
def ObjcopyCall.KeepsClear (call : ObjcopyCall) (host : Host) (sections : List Section) : Prop :=
  ∀ added ∈ call.adder.sections, ∀ s ∈ sections,
    Disjoint (added.block host).range s.block.range

/-- Every multiple of the alignment that no section starts or is larger than is not before the end of a
section either. -/
def EndsBeforeBoundary (sections : List Section) : Prop :=
  ∀ boundary, alignmentMask + 1 ∣ boundary →
    (∀ s ∈ sections, s.block.size ≤ boundary ∧ s.block.start ≤ boundary) →
    ∀ s ∈ sections, s.block.stop ≤ boundary

/-- The alignment is not zero. -/
theorem alignment_pos : 0 < alignmentMask + 1 := Nat.succ_pos _

/-- The condition is about the first address that is given to a new section. -/
theorem endsBeforeBoundary_iff (sections : List Section) :
    EndsBeforeBoundary sections
      ↔ ∀ s ∈ sections, s.block.stop ≤ alignUp (alignmentMask + 1) (maxVma sections) := by
  constructor
  · intro h
    apply h _ (dvd_alignUp _ _)
    have hle := le_alignUp alignment_pos (maxVma sections)
    exact (maxVma_le_iff sections _).mp hle
  · intro h boundary hdvd hbound s hs
    -- every such boundary is at least the first address
    have hmax : maxVma sections ≤ boundary := (maxVma_le_iff sections boundary).mpr hbound
    have hfirst := (alignUp_le_iff alignment_pos hdvd).mpr hmax
    exact (h s hs).trans hfirst

/-- When `objcopy` is called, the new sections keep clear of the hypervisor if and only if all files are
empty, or no section of the hypervisor reaches over a multiple of the alignment that is at or after the
starts and the sizes of all of them. -/
theorem main_keepsClear_iff {host : Host} {args : UkiArgs} {call : ObjcopyCall}
    (h : main host args = .ok call) :
    ∃ output, host.checkOutput (objdumpCommand call.hyp) = .ok output ∧
      (call.KeepsClear host (hypervisorSections output)
        ↔ (∀ s ∈ args.sections, host.sizeOf s.2 = 0)
          ∨ EndsBeforeBoundary (hypervisorSections output)) := by
  obtain ⟨output, hdump, hblocks⟩ := main_eq_ok h
  refine ⟨output, hdump, ?_⟩
  have hstart : ∀ o ∈ (hypervisorSections output).map Section.block,
      o.start ≤ maxVma (hypervisorSections output) := by
    intro o ho
    obtain ⟨s, hs, rfl⟩ := List.mem_map.mp ho
    exact start_le_maxVma hs
  have hplace := @place_disjoint_iff _ alignment_pos _
    (args.sections.map fun s => host.sizeOf s.2) _ hstart
  rw [← hblocks] at hplace
  simp only [SectionAdder.blocks, List.forall_mem_map] at hplace
  rw [ObjcopyCall.KeepsClear, endsBeforeBoundary_iff]
  exact hplace

/-- The section table of an image with one section of 4 KiB at 2 MiB. -/
def smallImage : Bytes :=
  encodeAscii "  0 .text         00001000  0000000000200000  0000000000200000  00001000  2**4\n"

/-- A host on which every image has one section and every file one byte. -/
def smallHost : Host := ⟨fun _ => .ok smallImage, fun _ => some 1⟩

/-- The command line for a boot directory. -/
def bootArgs : UkiArgs := ⟨"/boot/xen.efi", "/boot/xen.cfg", "/boot/vmlinuz", "/boot/initramfs",
  "/boot/uki.efi", []⟩

/-- The call for a boot directory. -/
def bootCall : ObjcopyCall :=
  ⟨⟨0x600001, [⟨"config", "/boot/xen.cfg", 0x200000⟩, ⟨"kernel", "/boot/vmlinuz", 0x400000⟩,
    ⟨"ramdisk", "/boot/initramfs", 0x600000⟩]⟩, "/boot/xen.efi", "/boot/uki.efi"⟩

/-- The call of `objcopy` in the example. -/
theorem main_smallHost : main smallHost bootArgs = .ok bootCall := by decide +kernel

/-- The characterisation for a boot directory. -/
theorem main_keepsClear_boot :
    ∃ output, smallHost.checkOutput (objdumpCommand bootCall.hyp) = .ok output ∧
      (bootCall.KeepsClear smallHost (hypervisorSections output)
        ↔ (∀ s ∈ bootArgs.sections, smallHost.sizeOf s.2 = 0)
          ∨ EndsBeforeBoundary (hypervisorSections output)) :=
  main_keepsClear_iff main_smallHost

/-- A section at 2 MiB is overlaid by the configuration: neither its start nor its size is larger than
2 MiB. -/
theorem main_overlays :
    ¬ ∀ (host : Host) (args : UkiArgs) (call : ObjcopyCall) (output : Bytes),
      main host args = .ok call → host.checkOutput (objdumpCommand call.hyp) = .ok output →
      call.KeepsClear host (hypervisorSections output) := by
  intro h
  have hclear := h smallHost bootArgs bootCall smallImage main_smallHost rfl
  have hsection : ⟨encodeAscii ".text", ⟨0x200000, 0x1000⟩⟩ ∈ hypervisorSections smallImage := by
    decide +kernel
  have hdisjoint := hclear ⟨"config", "/boot/xen.cfg", 0x200000⟩ List.mem_cons_self _ hsection
  rw [Block.disjoint_range_iff] at hdisjoint
  revert hdisjoint
  decide

end UkiGenerate

end QubesAdminLinux
