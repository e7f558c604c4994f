import SlotPool.Proofs.Block.Contents
import SlotPool.Proofs.Block.Storage

/-!
# The arithmetic of a block

A block hands out the place of its cursor without asking whether the whole slot lies in the region,
puts the place into the 32 bits of an offset without asking whether it fits, and adds sizes without
asking whether the sum does.  None of this can go wrong, since region and cursor stay whole numbers
of slots, and the region ends before the offsets do.

Main definitions:

- `Block.bump?`: handing out from the cursor, with the conversion, the sum and the end of the region
  watched, as `Block.slotRange?` watches the sum and the end of the region for the bytes of a slot.
- `Block.Exact`: the numbers of a block are in step, and watching its arithmetic finds nothing
  wrong.

Main results:

- Theorem `Block.WellFormed.run`: no sequence of actions brings the numbers of a block out of step.
- Theorem `Block.arithmetic_exact`: the arithmetic of a block is exact at all times.
-/

namespace SlotPool

open Fresh
open Pool (overlay)

/-- A place as an offset, unless 32 bits lose some of it. -/
def offsetOf? (place : Nat) : Option UInt32 :=
  if place.toUInt32.toNat = place then some place.toUInt32 else none

namespace Block

variable {memory : Memory} {drawn : List BlockId} {objectSize requested start : Nat}
variable {block after : Block} {action : Action} {address : Address}

/-! ## Under watch -/

/-- The slot at the cursor as an offset, and the block after it is handed out, if the place of the
cursor is an offset and the whole slot lies in the region. -/
def bump? (block : Block) : Option (UInt32 × Block) := do
  let offset ← offsetOf? block.bumpCursor
  let cursor ← sizeSum? block.bumpCursor block.objectSize
  if cursor ≤ block.regionBytes then
    return (offset, { block with bumpCursor := cursor })
  else
    none

namespace WellFormed

/-- The whole slot at a cursor inside the region can be handed out. -/
theorem bump?_eq (h : block.WellFormed) (hinside : block.bumpCursor < block.regionBytes) :
    block.bump? = some (block.bumpCursor.toUInt32, block.take) := by
  have hoffset : offsetOf? block.bumpCursor = some block.bumpCursor.toUInt32 :=
    if_pos (h.toNat_cursor hinside)
  have hle := h.cursor_add_le hinside
  simp only [bump?, hoffset, h.sizeSum?_eq hle, Option.bind_eq_bind, Option.bind_some, if_pos hle,
    Block.take, if_pos hinside, Option.pure_def]

/-! ## At all times -/

theorem step (h : block.WellFormed) (hstep : Step block action after) : after.WellFormed := by
  cases hstep with
  | taken hnext => exact h.take
  | freed hpasses => exact h.pushFree (contains_iff.1 (contains_of_refusal?_eq_none hpasses)).2
  | reclaimed => exact h.reclaim
  | _ => exact h

/-- No sequence of actions brings the numbers of a block out of step, whatever addresses it is
given. -/
theorem run (h : block.WellFormed) (actions : List Action) : (block.run actions).WellFormed := by
  induction actions generalizing block with
  | nil => exact h
  | cons action actions ih => exact ih (h.step (block.step_act action))

end WellFormed

theorem Step.objectSize_eq (hstep : Step block action after) :
    after.objectSize = block.objectSize := by
  cases hstep with
  | taken hnext => exact block.take_objectSize
  | _ => rfl

theorem objectSize_run (block : Block) (actions : List Action) :
    (block.run actions).objectSize = block.objectSize := by
  induction actions generalizing block with
  | nil => rfl
  | cons action actions ih => rw [run_cons, ih, (block.step_act action).objectSize_eq]

/-! ## The main result -/

/-- Watching the arithmetic of a block of slots of `objectSize` bytes finds nothing wrong. -/
structure Exact (objectSize : Nat) (block : Block) : Prop where
  objectSize_eq : block.objectSize = objectSize
  dvd_region : objectSize ∣ block.regionBytes
  objectSize_le : objectSize ≤ block.regionBytes
  region_le : block.regionBytes ≤ 0xffffffff
  dvd_cursor : objectSize ∣ block.bumpCursor
  cursor_le : block.bumpCursor ≤ block.regionBytes
  /-- What is handed out at the cursor is the whole slot there. -/
  bump : block.bumpCursor < block.regionBytes → ∃ offset after,
    block.bump? = some (offset, after) ∧ offset.toNat = block.bumpCursor ∧
      after.bumpCursor = block.bumpCursor + objectSize ∧
      block.allocate = (some (block.addressAt offset), after)
  /-- What is read and written at the start of a slot are the bytes of that slot. -/
  slot : ∀ address start, block.slotStart? address = some start →
    block.slotRange? address = some (start, start + objectSize) ∧
      ∃ slot, block.bytes? address = some slot ∧
        slot = block.contents.slice start objectSize ∧ slot.length = objectSize ∧
        ∀ bytes, block.write address bytes = (true, block.overwrite start bytes) ∧
          (block.overwrite start bytes).bytes? address = some (overlay bytes slot)

theorem WellFormed.exact (h : block.WellFormed) : Exact block.objectSize block where
  objectSize_eq := rfl
  dvd_region := h.dvd_region
  objectSize_le := h.objectSize_le
  region_le := Nat.le_pred_of_lt h.region_lt
  dvd_cursor := h.dvd_cursor
  cursor_le := h.cursor_le
  bump := by
    intro hinside
    have htake : block.take.bumpCursor = block.bumpCursor + block.objectSize := by
      rw [Block.take, if_pos hinside]
    have hnext : block.nextAddress? = some (block.addressAt block.bumpCursor.toUInt32) := by
      rw [nextAddress?, nextOffset?, if_pos hinside, Option.map_some]
    refine ⟨_, _, h.bump?_eq hinside, h.toNat_cursor hinside, htake, ?_⟩
    rw [allocate, hnext]
  slot := by
    intro address start hstart
    have hrange := h.slotRange?_eq hstart
    have hbytes := bytes?_eq_slice hrange
    refine ⟨hrange, _, hbytes, rfl, length_of_bytes? hbytes, fun bytes => ⟨?_, ?_⟩⟩
    · rw [write, hrange]
    · rw [bytes?_overwrite hrange, hbytes, Option.map_some, if_pos rfl]

/-- Whatever is done with a block that could be built, its arithmetic is exact. -/
theorem arithmetic_exact (hcreate : (create memory objectSize requested).Gives drawn (.ok block))
    (actions : List Action) :
    (block.run actions).regionBytes = block.regionBytes ∧ Exact objectSize (block.run actions) := by
  rcases create_cases hcreate with ⟨fault, -, hfault⟩ | ⟨id, regionBytes, -, hplan, hblock⟩
  · contradiction
  rcases Except.ok.inj hblock with rfl
  have hwell := (wellFormed_of_plan id hplan).run actions
  have hexact := hwell.exact
  rw [objectSize_run] at hexact
  exact ⟨regionBytes_run _ actions, hexact⟩

/-- A block is built of nearly all bytes that offsets reach, and has two slots. -/
theorem gives_fresh_hugeSlots :
    (create .ample 0x7fffffff 0xffffffff).Gives [⟨1⟩] (.ok (fresh ⟨1⟩ 0x7fffffff 0xfffffffe)) :=
  gives_runFrom (create .ample 0x7fffffff 0xffffffff) 1

/-- Both slots are handed out, and in between a place at which no slot starts is taken back. -/
def hugeActions : List Action :=
  [.allocate, .free .quick ⟨⟨1⟩, 0xfffffffd⟩, .free .thorough ⟨⟨1⟩, 0xfffffffd⟩, .allocate]

/-- The second slot ends with the region, just before offsets do. -/
theorem arithmetic_exact_hugeActions :
    (create .ample 0x7fffffff 0xffffffff).Gives [⟨1⟩] (.ok (fresh ⟨1⟩ 0x7fffffff 0xfffffffe)) ∧
      ((fresh ⟨1⟩ 0x7fffffff 0xfffffffe).run hugeActions).bumpCursor = 0xfffffffe ∧
      ((fresh ⟨1⟩ 0x7fffffff 0xfffffffe).run hugeActions).slotRange? ⟨⟨1⟩, 0x7fffffff⟩ =
        some (0x7fffffff, 0xfffffffe) ∧
      Exact 0x7fffffff ((fresh ⟨1⟩ 0x7fffffff 0xfffffffe).run hugeActions) := by
  have hexact := (arithmetic_exact gives_fresh_hugeSlots hugeActions).2
  refine ⟨gives_fresh_hugeSlots, by decide +kernel, ?_, hexact⟩
  exact (hexact.slot ⟨⟨1⟩, 0x7fffffff⟩ 0x7fffffff (by decide +kernel)).1

end Block

end SlotPool
