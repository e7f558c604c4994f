import SlotPool.Block.Shape

/-!
# The supply of a block

The offsets that a block has still to hand out form a list: first those that were never
used, in ascending order, then those taken back, from the last to the first.  Handing
out a slot takes the head of this list.

Main definitions:

- `Block.unused`: the offsets that the cursor has still to pass.
- `Block.supply`: all offsets to be handed out, in order.

Main results:

- Theorem `Block.supply_take`: handing out a slot leaves the tail of the supply.
- Theorem `Block.nextOffset?_eq_head?`: the slot handed out is the head of the supply.
-/

namespace SlotPool.Block

/-- Offsets that were never handed out since the last reclaim, in ascending order. -/
def unused (block : Block) : List UInt32 :=
  (List.range' block.bumpCursor ((block.regionBytes - block.bumpCursor) / block.objectSize)
    block.objectSize).map Nat.toUInt32

/-- Offsets to be handed out, in order. -/
def supply (block : Block) : List UInt32 :=
  block.unused ++ block.freeStack.toList.reverse

theorem unused_of_le {block : Block} (done : block.regionBytes ≤ block.bumpCursor) :
    block.unused = [] := by
  simp [unused, Nat.sub_eq_zero_of_le done]

/-- While the cursor is inside the region, it is the first of the unused offsets. -/
theorem WellFormed.unused_eq_cons {block : Block} (h : block.WellFormed)
    (inside : block.bumpCursor < block.regionBytes) :
    block.unused = block.bumpCursor.toUInt32 ::
      { block with bumpCursor := block.bumpCursor + block.objectSize }.unused := by
  have room := h.cursor_add_le inside
  have count : (block.regionBytes - block.bumpCursor) / block.objectSize =
      (block.regionBytes - (block.bumpCursor + block.objectSize)) / block.objectSize + 1 := by
    rw [← Nat.add_div_right _ h.objectSize_pos]
    congr 1
    omega
  simp [unused, count, List.range'_succ]

/-- The offset handed out next is the head of the supply. -/
theorem nextOffset?_eq_head? {block : Block} (h : block.WellFormed) :
    block.nextOffset? = block.supply.head? := by
  unfold nextOffset?
  split
  · next inside => simp [supply, h.unused_eq_cons inside]
  · next done => simp [supply, unused_of_le (Nat.le_of_not_lt done), Array.getLast?_toList]

/-- Handing out a slot takes the head off the supply. -/
theorem supply_take {block : Block} (h : block.WellFormed) :
    block.take.supply = block.supply.tail := by
  unfold take
  split
  · next inside =>
    rw [supply, supply, h.unused_eq_cons inside]
    rfl
  · next done =>
    have past := Nat.le_of_not_lt done
    rw [supply, supply, unused_of_le past, unused_of_le (by exact past)]
    simp

/-- A block has room exactly when its supply is not empty. -/
theorem hasRoom_iff {block : Block} (h : block.WellFormed) :
    block.hasRoom = true ↔ block.supply ≠ [] := by
  by_cases inside : block.bumpCursor < block.regionBytes
  · simp [hasRoom, inside, supply, h.unused_eq_cons inside]
  · simp [hasRoom, inside, supply, unused_of_le (Nat.le_of_not_lt inside)]

end SlotPool.Block
