import Mathlib.Data.List.Nodup
import Mathlib.Data.List.Perm.Basic
import SlotPool.Block.Shape

/-!
# The balance of a block

In the hands of careful callers every slot that the cursor of a block has passed is either
outstanding or on the free stack, and never both.  This file states that balance for a block
and the list of its outstanding offsets, and shows that handing out, taking back and
reclaiming keep it.

Main definitions:

- `Block.passed`: the offsets of the slots that the cursor has passed.
- `Block.Balanced`: outstanding and free offsets together are these, each exactly once.

Main results:

- Theorems `Block.Balanced.take`, `Block.Balanced.pushFree` and `Block.Balanced.reclaim`:
  what the operations of a block do to its balance.
- Theorem `Block.Balanced.refusal?_eq_none`: an outstanding offset passes either check.
- Theorem `Block.Balanced.length_eq_of_not_hasRoom`: a block without room has all its slots
  outstanding.
-/

namespace SlotPool.Block

variable {block : Block} {out : List UInt32} {offset : UInt32}

/-! ## What no operation changes -/

@[simp]
theorem take_id (block : Block) : block.take.id = block.id := by
  unfold take
  split <;> rfl

@[simp]
theorem take_objectSize (block : Block) : block.take.objectSize = block.objectSize := by
  unfold take
  split <;> rfl

@[simp]
theorem take_regionBytes (block : Block) : block.take.regionBytes = block.regionBytes := by
  unfold take
  split <;> rfl

@[simp]
theorem pushFree_id (block : Block) (offset : UInt32) : (block.pushFree offset).id = block.id :=
  rfl

@[simp]
theorem overwrite_id (block : Block) (start : Nat) (bytes : List UInt8) :
    (block.overwrite start bytes).id = block.id :=
  rfl

@[simp]
theorem reclaim_id (block : Block) : block.reclaim.id = block.id :=
  rfl

/-! ## Offsets passed by the cursor -/

/-- Offsets of the slots that the cursor has passed, in ascending order. -/
def passed (block : Block) : List Nat :=
  (List.range (block.bumpCursor / block.objectSize)).map (· * block.objectSize)

/-- The cursor has passed the multiples of the slot size below it. -/
theorem WellFormed.mem_passed_iff (h : block.WellFormed) {place : Nat} :
    place ∈ block.passed ↔ block.objectSize ∣ place ∧ place < block.bumpCursor := by
  have hne : block.objectSize ≠ 0 := Nat.ne_of_gt h.objectSize_pos
  simp only [passed, List.mem_map, List.mem_range, Nat.lt_div_iff_mul_lt_of_dvd hne h.dvd_cursor]
  constructor
  · rintro ⟨slot, hlt, rfl⟩
    exact ⟨Nat.dvd_mul_left _ _, hlt⟩
  · rintro ⟨⟨slot, rfl⟩, hlt⟩
    rw [Nat.mul_comm] at hlt
    exact ⟨slot, hlt, Nat.mul_comm _ _⟩

theorem WellFormed.nodup_passed (h : block.WellFormed) : block.passed.Nodup := by
  apply List.Nodup.map _ List.nodup_range
  intro first second heq
  exact Nat.eq_of_mul_eq_mul_right h.objectSize_pos heq

@[simp]
theorem length_passed (block : Block) :
    block.passed.length = block.bumpCursor / block.objectSize := by
  simp [passed]

theorem WellFormed.length_passed_le (h : block.WellFormed) :
    block.passed.length ≤ block.capacitySlots := by
  rw [length_passed]
  exact Nat.div_le_div_right h.cursor_le

/-- Moving the cursor over one slot passes that slot. -/
theorem WellFormed.passed_add (h : block.WellFormed) :
    passed { block with bumpCursor := block.bumpCursor + block.objectSize } =
      block.passed ++ [block.bumpCursor] := by
  simp only [passed, Nat.add_div_right _ h.objectSize_pos, List.range_succ, List.map_append,
    List.map_cons, List.map_nil, Nat.div_mul_cancel h.dvd_cursor]

/-! ## Balance -/

/-- Every slot that the cursor has passed is either outstanding or free, and not both; the free
stack has the storage it was given in the beginning. -/
structure Balanced (block : Block) (out : List UInt32) : Prop where
  wellFormed : block.WellFormed
  partition : ((out ++ block.freeStack.toList).map UInt32.toNat).Perm block.passed
  reserved : block.freeReserved = block.capacitySlots

theorem balanced_fresh {objectSize requested regionBytes : Nat} (id : BlockId)
    (hplan : plan objectSize requested = .ok regionBytes) :
    (fresh id objectSize regionBytes).Balanced [] where
  wellFormed := wellFormed_of_plan id hplan
  partition := by simp [fresh, passed]
  reserved := rfl

theorem hasRoom_iff_exists : block.hasRoom = true ↔ ∃ offset, block.nextOffset? = some offset := by
  rw [← Option.isSome_iff_exists]
  by_cases hinside : block.bumpCursor < block.regionBytes
  · simp [hasRoom, nextOffset?, hinside]
  · simp [hasRoom, nextOffset?, hinside]

/-- What handing out does: the cursor moves over the slot handed out, or the slot handed out
leaves the top of the free stack. -/
theorem take_cases (hnext : block.nextOffset? = some offset) :
    (block.bumpCursor < block.regionBytes ∧ offset = block.bumpCursor.toUInt32 ∧
      block.take = { block with bumpCursor := block.bumpCursor + block.objectSize }) ∨
    (block.regionBytes ≤ block.bumpCursor ∧ ∃ rest, block.freeStack = rest.push offset ∧
      block.take = { block with freeStack := rest }) := by
  unfold nextOffset? at hnext
  by_cases hinside : block.bumpCursor < block.regionBytes
  · rw [if_pos hinside] at hnext
    exact Or.inl ⟨hinside, (Option.some.inj hnext).symm, if_pos hinside⟩
  · rw [if_neg hinside] at hnext
    rcases Array.back?_eq_some_iff.1 hnext with ⟨rest, hstack⟩
    refine Or.inr ⟨Nat.le_of_not_lt hinside, rest, hstack, ?_⟩
    rw [take, if_neg hinside, hstack, Array.pop_push]

/-- The thorough check looks at three things: the offset is that of a slot, the cursor has passed
it, and it is not on the free stack. -/
theorem WellFormed.refusal?_thorough (h : block.WellFormed) {address : Address}
    (hblock : address.block = block.id) :
    block.refusal? .thorough address =
      if block.objectSize ∣ address.offset.toNat ∧ address.offset.toNat < block.bumpCursor then
        if address.offset ∈ block.freeStack then some (.doubleFree address) else none
      else
        some (.invalidFree address) := by
  have hissued : (!block.contains address || address.offset.toNat % block.objectSize != 0 ||
        decide (block.bumpCursor ≤ address.offset.toNat)) = true ↔
      ¬ (block.objectSize ∣ address.offset.toNat ∧ address.offset.toNat < block.bumpCursor) := by
    have hle := h.cursor_le
    simp only [Bool.or_eq_true, Bool.not_eq_true', ← Bool.not_eq_true, contains_iff, hblock,
      true_and, bne_iff_ne, ne_eq, ← Nat.dvd_iff_mod_eq_zero, decide_eq_true_eq]
    omega
  by_cases hpassed : block.objectSize ∣ address.offset.toNat ∧
      address.offset.toNat < block.bumpCursor
  · rw [if_pos hpassed, refusal?, if_neg (fun hbad => hissued.1 hbad hpassed)]
    simp only [Array.contains_iff_mem]
  · rw [if_neg hpassed, refusal?, if_pos (hissued.2 hpassed)]

/-- A cursor inside the region survives the conversion to 32 bits. -/
theorem WellFormed.toNat_cursor (h : block.WellFormed)
    (hinside : block.bumpCursor < block.regionBytes) :
    block.bumpCursor.toUInt32.toNat = block.bumpCursor :=
  Nat.mod_eq_of_lt (Nat.lt_trans hinside h.region_lt)

namespace Balanced

/-- Handing out the next offset makes it outstanding. -/
theorem take (h : block.Balanced out) (hnext : block.nextOffset? = some offset) :
    block.take.Balanced (offset :: out) := by
  have hwell : block.take.WellFormed := h.wellFormed.take
  rcases take_cases hnext with ⟨hinside, rfl, htake⟩ | ⟨-, rest, hstack, htake⟩
  · rw [htake] at hwell ⊢
    refine ⟨hwell, ?_, h.reserved⟩
    rw [h.wellFormed.passed_add, List.cons_append, List.map_cons,
      h.wellFormed.toNat_cursor hinside]
    exact (h.partition.cons _).trans (List.perm_append_singleton _ _).symm
  · rw [htake] at hwell ⊢
    refine ⟨hwell, List.Perm.trans (List.Perm.map _ ?_) h.partition, h.reserved⟩
    rw [hstack, Array.toList_push, ← List.append_assoc]
    exact (List.perm_append_singleton _ _).symm

/-- Handing out the next offset leaves the cursor past that offset and past all it had passed. -/
theorem mem_passed_take (h : block.Balanced out) (hnext : block.nextOffset? = some offset)
    {place : UInt32} :
    place.toNat ∈ block.take.passed ↔ place = offset ∨ place.toNat ∈ block.passed := by
  rcases take_cases hnext with ⟨hinside, rfl, htake⟩ | ⟨-, rest, hstack, htake⟩
  · rw [htake, h.wellFormed.passed_add, List.mem_append, List.mem_singleton, or_comm,
      ← UInt32.toNat_inj, h.wellFormed.toNat_cursor hinside]
  · have hfree : offset.toNat ∈ block.passed := by
      apply h.partition.subset
      simp [hstack]
    rw [htake]
    constructor
    · intro hmem
      exact Or.inr hmem
    · rintro (rfl | hmem)
      · exact hfree
      · exact hmem

/-- Outstanding and free slots together are no more than the block has. -/
theorem length_add_size_le (h : block.Balanced out) :
    out.length + block.freeStack.size ≤ block.capacitySlots := by
  have hlength := h.partition.length_eq
  rw [List.length_map, List.length_append, Array.length_toList] at hlength
  exact hlength ▸ h.wellFormed.length_passed_le

theorem length_le (h : block.Balanced out) : out.length ≤ block.capacitySlots :=
  Nat.le_trans (Nat.le_add_right _ _) h.length_add_size_le

/-- While a slot is outstanding, the free stack has storage for one more entry. -/
theorem size_lt (h : block.Balanced out) (hout : offset ∈ out) :
    block.freeStack.size < block.capacitySlots := by
  have hpos := List.length_pos_of_mem hout
  have hle := h.length_add_size_le
  omega

/-- Taking an outstanding offset back needs no storage, so it changes nothing but the stack. -/
theorem pushFree_eq (h : block.Balanced out) (hout : offset ∈ out) :
    block.pushFree offset = { block with freeStack := block.freeStack.push offset } := by
  have hlt := h.size_lt hout
  have hstorage : (block.freeStack.push offset).size ≤ block.freeReserved := by
    rw [Array.size_push, h.reserved]
    exact hlt
  simp only [pushFree, grownStorage, if_pos hstorage]

/-- The offsets of slots in use or free are the multiples of the slot size that the cursor has
passed. -/
theorem mem_append_iff (h : block.Balanced out) :
    offset ∈ out ++ block.freeStack.toList ↔
      block.objectSize ∣ offset.toNat ∧ offset.toNat < block.bumpCursor := by
  rw [← h.wellFormed.mem_passed_iff, ← h.partition.mem_iff,
    List.mem_map_of_injective (fun _ _ => UInt32.toNat_inj.1)]

theorem nodup (h : block.Balanced out) : (out ++ block.freeStack.toList).Nodup :=
  List.Nodup.of_map _ (h.partition.nodup_iff.2 h.wellFormed.nodup_passed)

theorem lt_regionBytes (h : block.Balanced out) (hout : offset ∈ out) :
    offset.toNat < block.regionBytes :=
  Nat.lt_of_lt_of_le (h.mem_append_iff.1 (List.mem_append_left _ hout)).2 h.wellFormed.cursor_le

/-- Taking an outstanding offset back makes it free. -/
theorem pushFree (h : block.Balanced out) (hout : offset ∈ out) :
    (block.pushFree offset).Balanced (out.erase offset) := by
  have hwell := h.wellFormed.pushFree (h.lt_regionBytes hout)
  rw [h.pushFree_eq hout] at hwell ⊢
  refine ⟨hwell, List.Perm.trans (List.Perm.map _ ?_) h.partition, h.reserved⟩
  rw [Array.toList_push, ← List.append_assoc]
  calc
    ((out.erase offset ++ block.freeStack.toList) ++ [offset]).Perm
        (offset :: (out.erase offset ++ block.freeStack.toList)) :=
      List.perm_append_singleton _ _
    List.Perm _ (out ++ block.freeStack.toList) :=
      (List.perm_cons_erase hout).symm.append_right _

theorem reclaim (h : block.Balanced out) : block.reclaim.Balanced [] where
  wellFormed := h.wellFormed.reclaim
  partition := by simp [Block.reclaim, passed]
  reserved := h.reserved

theorem overwrite (h : block.Balanced out) (start : Nat) (bytes : List UInt8) :
    (block.overwrite start bytes).Balanced out where
  wellFormed := h.wellFormed.overwrite start bytes
  partition := h.partition
  reserved := h.reserved

/-! ## What follows from balance -/

/-- The whole slot of an outstanding offset lies in the region. -/
theorem add_le_regionBytes (h : block.Balanced out) (hout : offset ∈ out) :
    offset.toNat + block.objectSize ≤ block.regionBytes := by
  have hdvd := (h.mem_append_iff.1 (List.mem_append_left _ hout)).1
  apply Nat.le_of_lt_add_of_dvd _ (Nat.dvd_add hdvd (Nat.dvd_refl _)) h.wellFormed.dvd_region
  exact Nat.add_lt_add_right (h.lt_regionBytes hout) _

/-- The slots of two outstanding offsets do not overlap. -/
theorem disjoint (h : block.Balanced out) {first second : UInt32} (hfirst : first ∈ out)
    (hsecond : second ∈ out) (hne : first ≠ second) :
    first.toNat + block.objectSize ≤ second.toNat ∨
      second.toNat + block.objectSize ≤ first.toNat := by
  have hdvd₁ := (h.mem_append_iff.1 (List.mem_append_left _ hfirst)).1
  have hdvd₂ := (h.mem_append_iff.1 (List.mem_append_left _ hsecond)).1
  rcases Nat.lt_or_gt_of_ne fun heq => hne (UInt32.toNat_inj.1 heq) with hlt | hlt
  · exact Or.inl (Nat.le_of_lt_add_of_dvd (Nat.add_lt_add_right hlt _)
      (Nat.dvd_add hdvd₁ (Nat.dvd_refl _)) hdvd₂)
  · exact Or.inr (Nat.le_of_lt_add_of_dvd (Nat.add_lt_add_right hlt _)
      (Nat.dvd_add hdvd₂ (Nat.dvd_refl _)) hdvd₁)

/-- The thorough check tells outstanding offsets, free ones and all others apart. -/
theorem refusal?_thorough (h : block.Balanced out) {address : Address}
    (hblock : address.block = block.id) :
    block.refusal? .thorough address =
      if address.offset ∈ out then none
      else if block.objectSize ∣ address.offset.toNat ∧ address.offset.toNat < block.bumpCursor then
        some (.doubleFree address)
      else some (.invalidFree address) := by
  have hmem : address.offset ∈ out ∨ address.offset ∈ block.freeStack ↔
      block.objectSize ∣ address.offset.toNat ∧ address.offset.toNat < block.bumpCursor := by
    rw [← h.mem_append_iff, List.mem_append]
    exact or_congr Iff.rfl Array.mem_toList_iff.symm
  rw [h.wellFormed.refusal?_thorough hblock]
  by_cases hout : address.offset ∈ out
  · have hfree : address.offset ∉ block.freeStack := fun hfree =>
      List.disjoint_of_nodup_append h.nodup hout (Array.mem_toList_iff.2 hfree)
    rw [if_pos (hmem.1 (Or.inl hout)), if_neg hfree, if_pos hout]
  · rw [if_neg hout]
    by_cases hpassed : block.objectSize ∣ address.offset.toNat ∧
        address.offset.toNat < block.bumpCursor
    · rw [if_pos hpassed, if_pos hpassed, if_pos ((hmem.2 hpassed).resolve_left hout)]
    · rw [if_neg hpassed, if_neg hpassed]

/-- An outstanding offset passes either check. -/
theorem refusal?_eq_none (h : block.Balanced out) (check : FreeCheck) {address : Address}
    (hblock : address.block = block.id) (hout : address.offset ∈ out) :
    block.refusal? check address = none := by
  cases check with
  | quick =>
      have hcontains : block.contains address = true :=
        contains_iff.2 ⟨hblock, h.lt_regionBytes hout⟩
      have hne : block.freeStack.size ≠ block.capacitySlots := Nat.ne_of_lt (h.size_lt hout)
      simp [refusal?, hcontains, hne]
  | thorough => rw [h.refusal?_thorough hblock, if_pos hout]

/-- A block without room has as many outstanding slots as it has slots at all. -/
theorem length_eq_of_not_hasRoom (h : block.Balanced out) (hfull : ¬ block.hasRoom = true) :
    out.length = block.capacitySlots := by
  have hroom : block.bumpCursor = block.regionBytes ∧ block.freeStack = #[] := by
    simp only [hasRoom, Bool.or_eq_true, decide_eq_true_eq, Bool.not_eq_true', not_or,
      Nat.not_lt, Bool.not_eq_false, Array.isEmpty_iff] at hfull
    exact ⟨Nat.le_antisymm h.wellFormed.cursor_le hfull.1, hfull.2⟩
  have hlength := h.partition.length_eq
  rw [hroom.2, List.append_nil, List.length_map, length_passed, hroom.1] at hlength
  exact hlength

end Balanced

end SlotPool.Block
