import Mathlib.Algebra.Order.Floor.Div
import Mathlib.Data.List.Chain
import Mathlib.Order.CompletePartialOrder
import Mathlib.Order.Interval.Set.Disjoint

/-! # Placing blocks in an address space

A block is a half-open range of addresses, given by its start and its size.  Blocks are placed one
after the other, each at the next multiple of a unit.

* **`alignUp`** — the least multiple of the unit that is not smaller.
* **`place`** — the placement; **`pairwise_place`**: no placed block reaches into a later one;
  **`isChain_place`**: none could start earlier.
* **`place_disjoint_iff`** — the placed blocks keep clear of some obstacles that start below the cursor
  if and only if the first placed address does, or there is nothing to place. -/

namespace QubesAdminLinux

/-- A range of addresses. -/
structure Block where
  /-- The first address. -/
  start : Nat
  /-- The number of addresses. -/
  size : Nat
  deriving DecidableEq, Repr

namespace Block

/-- The first address after a block. -/
def stop (b : Block) : Nat := b.start + b.size

/-- The addresses of a block. -/
def range (b : Block) : Set Nat := Set.Ico b.start b.stop

/-- Two blocks are disjoint if one is empty or ends before the other one starts. -/
theorem disjoint_range_iff (a b : Block) :
    Disjoint a.range b.range ↔ a.size = 0 ∨ b.size = 0 ∨ a.stop ≤ b.start ∨ b.stop ≤ a.start := by
  unfold range stop
  rw [Set.Ico_disjoint_Ico]
  omega

end Block

/-! ## Alignment -/

/-- The least multiple of `unit` that is at least `n`. -/
def alignUp (unit n : Nat) : Nat := unit * (n ⌈/⌉ unit)

variable {unit : Nat}

/-- An aligned number is a multiple of the unit. -/
theorem dvd_alignUp (unit n : Nat) : unit ∣ alignUp unit n := Nat.dvd_mul_right unit _

/-- It is not smaller. -/
theorem le_alignUp (h : 0 < unit) (n : Nat) : n ≤ alignUp unit n :=
  (ceilDiv_le_iff_le_mul h).mp le_rfl

/-- Below a multiple of the unit, rounding up changes nothing. -/
theorem alignUp_le_iff (h : 0 < unit) {n boundary : Nat} (hdvd : unit ∣ boundary) :
    alignUp unit n ≤ boundary ↔ n ≤ boundary := by
  obtain ⟨k, rfl⟩ := hdvd
  rw [alignUp, Nat.mul_le_mul_left_iff h]
  exact ceilDiv_le_iff_le_mul h

/-- A multiple of the unit is its own rounding. -/
theorem alignUp_of_dvd (h : 0 < unit) {n : Nat} (hdvd : unit ∣ n) : alignUp unit n = n := by
  apply le_antisymm
  · exact (alignUp_le_iff h hdvd).mpr le_rfl
  · exact le_alignUp h n

/-- It is the least one. -/
theorem isLeast_alignUp (h : 0 < unit) (n : Nat) :
    IsLeast {address | unit ∣ address ∧ n ≤ address} (alignUp unit n) :=
  ⟨⟨dvd_alignUp unit n, le_alignUp h n⟩, fun _ haddress => (alignUp_le_iff h haddress.1).mpr haddress.2⟩

/-! ## Placement -/

/-- Place blocks of the given sizes from `cursor` on. -/
def place (unit : Nat) : Nat → List Nat → List Block
  | _, [] => []
  | cursor, size :: rest =>
      ⟨alignUp unit cursor, size⟩ :: place unit (alignUp unit cursor + size) rest

/-- Every placed block starts at or after the first placed address. -/
theorem le_start_of_mem_place (h : 0 < unit) {cursor : Nat} {sizes : List Nat} {b : Block}
    (hb : b ∈ place unit cursor sizes) : alignUp unit cursor ≤ b.start := by
  induction sizes generalizing cursor with
  | nil => simp [place] at hb
  | cons size rest ih =>
      rw [place, List.mem_cons] at hb
      rcases hb with rfl | hb
      · exact le_rfl
      · have hnext := le_alignUp h (alignUp unit cursor + size)
        have hstart := ih hb
        omega

/-- Every placed block starts at a multiple of the unit. -/
theorem dvd_start_of_mem_place {cursor : Nat} {sizes : List Nat} {b : Block}
    (hb : b ∈ place unit cursor sizes) : unit ∣ b.start := by
  induction sizes generalizing cursor with
  | nil => simp [place] at hb
  | cons size rest ih =>
      rw [place, List.mem_cons] at hb
      rcases hb with rfl | hb
      · exact dvd_alignUp unit cursor
      · exact ih hb

/-- A placed block ends before the later ones start. -/
theorem pairwise_place (h : 0 < unit) (cursor : Nat) (sizes : List Nat) :
    (place unit cursor sizes).Pairwise fun a b => a.stop ≤ b.start := by
  induction sizes generalizing cursor with
  | nil => simp [place]
  | cons size rest ih =>
      rw [place, List.pairwise_cons]
      refine ⟨fun b hb => ?_, ih _⟩
      have hnext := le_alignUp h (alignUp unit cursor + size)
      have hstart := le_start_of_mem_place h hb
      simp only [Block.stop]
      omega

/-- Each block starts at the least multiple of the unit after the block in front of it; in front of the
first one is the cursor. -/
theorem isChain_place (h : 0 < unit) (front : Block) (sizes : List Nat) :
    List.IsChain (fun a b => IsLeast {address | unit ∣ address ∧ a.stop ≤ address} b.start)
      (front :: place unit front.stop sizes) := by
  induction sizes generalizing front with
  | nil => exact List.isChain_singleton front
  | cons size rest ih =>
      have hrest := ih ⟨alignUp unit front.stop, size⟩
      rw [place, List.isChain_cons_cons]
      exact ⟨isLeast_alignUp h front.stop, hrest⟩

/-- Empty blocks do not move the cursor, so the first block with an address in it starts at the first
placed address. -/
theorem exists_place_start (h : 0 < unit) (cursor : Nat) {sizes : List Nat}
    (hsizes : ∃ size ∈ sizes, size ≠ 0) :
    ∃ b ∈ place unit cursor sizes, b.start = alignUp unit cursor ∧ b.size ≠ 0 := by
  induction sizes generalizing cursor with
  | nil => simp at hsizes
  | cons size rest ih =>
      rw [place]
      by_cases hsize : size = 0
      · have hrest : ∃ size ∈ rest, size ≠ 0 := by simpa [hsize] using hsizes
        obtain ⟨b, hb, hstart, hne⟩ := ih (alignUp unit cursor + size) hrest
        refine ⟨b, List.mem_cons_of_mem _ hb, ?_, hne⟩
        rw [hstart, hsize, Nat.add_zero, alignUp_of_dvd h (dvd_alignUp unit cursor)]
      · exact ⟨_, List.mem_cons_self, rfl, hsize⟩

/-- Each block has one of the sizes. -/
theorem size_mem_of_mem_place {cursor : Nat} {sizes : List Nat} {b : Block}
    (hb : b ∈ place unit cursor sizes) : b.size ∈ sizes := by
  induction sizes generalizing cursor with
  | nil => simp [place] at hb
  | cons size rest ih =>
      rw [place, List.mem_cons] at hb
      rcases hb with rfl | hb
      · exact List.mem_cons_self
      · exact List.mem_cons_of_mem size (ih hb)

/-- Obstacles that start below the cursor are kept clear of exactly if they end below the first placed
address, or nothing with an address in it is placed. -/
theorem place_disjoint_iff (h : 0 < unit) {cursor : Nat} {sizes : List Nat} {obstacles : List Block}
    (hstart : ∀ o ∈ obstacles, o.start ≤ cursor) :
    (∀ b ∈ place unit cursor sizes, ∀ o ∈ obstacles, Disjoint b.range o.range)
      ↔ (∀ size ∈ sizes, size = 0) ∨ ∀ o ∈ obstacles, o.stop ≤ alignUp unit cursor := by
  have hcursor := le_alignUp h cursor
  constructor
  · intro hclear
    by_cases hempty : ∀ size ∈ sizes, size = 0
    · exact Or.inl hempty
    · right
      intro o ho
      push Not at hempty
      obtain ⟨b, hb, hbstart, hbsize⟩ := exists_place_start h cursor hempty
      have hdisjoint := (Block.disjoint_range_iff b o).mp (hclear b hb o ho)
      have hle := hstart o ho
      simp only [Block.stop] at hdisjoint ⊢
      omega
  · intro hclear b hb o ho
    rw [Block.disjoint_range_iff]
    rcases hclear with hempty | hbelow
    · exact Or.inl (hempty b.size (size_mem_of_mem_place hb))
    · have hle := le_start_of_mem_place h hb
      have hstop := hbelow o ho
      omega

end QubesAdminLinux
