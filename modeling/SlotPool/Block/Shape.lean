import SlotPool.Block

/-!
# The shape of a block

Whatever is done with a block, and however wrong the addresses are that it is given, its
region stays a whole number of slots, its cursor stands between two slots, and its free
stack names bytes of the region.

Main definitions:

- `Block.WellFormed`: the conditions on the numbers of a block.

Main results:

- Theorem `Block.wellFormed_of_plan`: blocks start out well formed.
- Theorems `Block.WellFormed.take`, `Block.WellFormed.free` and
  `Block.WellFormed.reclaim`: operations keep blocks well formed.
-/

namespace SlotPool.Block

/-- The numbers of a block fit together. -/
structure WellFormed (block : Block) : Prop where
  objectSize_pos : 0 < block.objectSize
  objectSize_le : block.objectSize ≤ block.regionBytes
  dvd_region : block.objectSize ∣ block.regionBytes
  region_lt : block.regionBytes < Memory.offsetLimit
  dvd_cursor : block.objectSize ∣ block.bumpCursor
  cursor_le : block.bumpCursor ≤ block.regionBytes
  stack_lt : ∀ offset ∈ block.freeStack, offset.toNat < block.regionBytes

/-- The region of a block is a whole number of slots. -/
theorem dvd_regionFor (objectSize requested : Nat) :
    objectSize ∣ regionFor objectSize requested := by
  unfold regionFor
  rcases Nat.le_total objectSize (requested - requested % objectSize) with h | h
  · rw [Nat.max_eq_right h]
    exact Nat.dvd_sub_mod requested
  · simp [Nat.max_eq_left h]

theorem le_regionFor (objectSize requested : Nat) : objectSize ≤ regionFor objectSize requested :=
  Nat.le_max_left ..

/-- A region is planned exactly when slots have bytes and offsets reach all of it. -/
theorem plan_eq_ok_iff {objectSize requested regionBytes : Nat} :
    plan objectSize requested = .ok regionBytes ↔
      0 < objectSize ∧ regionBytes = regionFor objectSize requested ∧
        regionBytes < Memory.offsetLimit := by
  unfold plan
  by_cases zero : objectSize = 0
  · simp [zero]
  · by_cases short : regionFor objectSize requested < Memory.offsetLimit
    · simp only [zero, short, if_false, if_true, Except.ok.injEq, Nat.pos_iff_ne_zero, ne_eq,
        not_false_eq_true, true_and]
      constructor
      · rintro rfl
        exact ⟨rfl, short⟩
      · rintro ⟨rfl, -⟩
        rfl
    · simp only [zero, short, if_false, reduceCtorEq, false_iff]
      rintro ⟨-, rfl, h⟩
      exact short h

/-- A block of a planned region starts out well formed. -/
theorem wellFormed_of_plan {objectSize requested regionBytes : Nat} (id : BlockId)
    (planned : plan objectSize requested = .ok regionBytes) :
    (fresh id objectSize regionBytes).WellFormed := by
  obtain ⟨positive, rfl, short⟩ := plan_eq_ok_iff.1 planned
  exact {
    objectSize_pos := positive
    objectSize_le := le_regionFor objectSize requested
    dvd_region := dvd_regionFor objectSize requested
    region_lt := short
    dvd_cursor := Nat.dvd_zero objectSize
    cursor_le := Nat.zero_le _
    stack_lt := fun offset member => absurd member (Array.not_mem_empty offset) }

/-! ## What operations keep -/

theorem mem_of_mem_pop {α : Type} {items : Array α} {item : α} (member : item ∈ items.pop) :
    item ∈ items := by
  rw [← Array.mem_toList_iff, Array.toList_pop] at member
  exact Array.mem_toList_iff.1 (List.dropLast_subset _ member)

namespace WellFormed

variable {block : Block}

/-- While the cursor is inside the region, a whole slot lies after it. -/
theorem cursor_add_le (h : block.WellFormed) (inside : block.bumpCursor < block.regionBytes) :
    block.bumpCursor + block.objectSize ≤ block.regionBytes := by
  obtain ⟨slots, region⟩ := h.dvd_region
  obtain ⟨used, cursor⟩ := h.dvd_cursor
  rw [region, cursor] at inside ⊢
  have few : used + 1 ≤ slots := Nat.lt_of_mul_lt_mul_left inside
  exact Nat.le_trans (Nat.le_of_eq (Nat.mul_succ ..).symm) (Nat.mul_le_mul_left _ few)

theorem take (h : block.WellFormed) : block.take.WellFormed := by
  unfold Block.take
  split
  · next inside =>
    exact { h with
      dvd_cursor := Nat.dvd_add h.dvd_cursor (Nat.dvd_refl _)
      cursor_le := h.cursor_add_le inside }
  · exact { h with stack_lt := fun offset member => h.stack_lt offset (mem_of_mem_pop member) }

theorem pushFree (h : block.WellFormed) {offset : UInt32}
    (inside : offset.toNat < block.regionBytes) :
    (block.pushFree offset).WellFormed :=
  { h with
    stack_lt := fun other member => by
      rcases Array.mem_push.1 member with old | rfl
      · exact h.stack_lt other old
      · exact inside }

theorem reclaim (h : block.WellFormed) : block.reclaim.WellFormed :=
  { h with
    dvd_cursor := Nat.dvd_zero _
    cursor_le := Nat.zero_le _
    stack_lt := fun offset member => absurd member (Array.not_mem_empty offset) }

theorem overwrite (h : block.WellFormed) (start : Nat) (bytes : List UInt8) :
    (block.overwrite start bytes).WellFormed :=
  { h with }

end WellFormed

/-- An address that a check lets pass points into the region. -/
theorem contains_of_refusal?_eq_none {check : FreeCheck} {block : Block} {address : Address}
    (passes : block.refusal? check address = none) : block.contains address = true := by
  cases check <;> by_cases inside : block.contains address = true <;>
    simp [refusal?, inside] at passes ⊢

theorem contains_iff {block : Block} {address : Address} :
    block.contains address = true ↔
      address.block = block.id ∧ address.offset.toNat < block.regionBytes := by
  simp [contains]

/-- A free keeps a block well formed, whichever address it is given and whether or not it passes. -/
theorem WellFormed.free {block : Block} (h : block.WellFormed) (check : FreeCheck)
    (address : Address) : (block.free check address).2.WellFormed := by
  unfold Block.free
  cases passes : block.refusal? check address with
  | some fault => exact h
  | none => exact h.pushFree (contains_iff.1 (contains_of_refusal?_eq_none passes)).2

end SlotPool.Block
