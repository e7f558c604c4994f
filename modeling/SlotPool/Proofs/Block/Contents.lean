import SlotPool.Pool.History
import SlotPool.Proofs.Block.Balance

/-!
# What the slots of a block hold

Only writing changes what slots hold, and a write changes only the slot of its own address: the
slots of two different addresses start at two different multiples of the slot size, so they do not
overlap.  A slot that starts inside the region of a well-formed block also ends there.

Main results:

- Theorem `Block.WellFormed.slotRange?_eq`: every slot of a well-formed block lies in its region.

- Theorem `Region.slice_write_take`: a slice that was written at its start holds the bytes written
  over what it held.
- Theorem `Block.bytes?_overwrite`: what a write to one slot leaves in all slots.
-/

namespace SlotPool

open Pool (overlay)

/-- Writing at the start of a slice lays the bytes written over it. -/
theorem Region.slice_write_take (region : Region) (start length : Nat) (bytes : List UInt8) :
    (region.write start (bytes.take length)).slice start length =
      overlay bytes (region.slice start length) := by
  have hslice : (region.slice start length).length = length := region.length_slice start length
  apply List.ext_getElem?
  intro i
  rw [getElem?_slice, overlay, hslice]
  by_cases hi : i < length
  · rw [if_pos hi, read_write, if_pos (Nat.le_add_right start i), Nat.add_sub_cancel_left]
    by_cases hwritten : i < bytes.length
    · have htaken : i < (bytes.take length).length := by
        rw [List.length_take]
        omega
      rw [List.getElem?_append_left htaken, List.getElem?_eq_getElem htaken, Option.getD_some]
    · have htaken : (bytes.take length).length = bytes.length := by
        rw [List.length_take]
        omega
      rw [List.getElem?_eq_none (by omega), List.getElem?_append_right (by omega), htaken,
        List.getElem?_drop, getElem?_slice, if_pos (by omega), Option.getD_none]
      congr 3
      omega
  · rw [if_neg hi, List.getElem?_eq_none]
    rw [List.length_append, List.length_take, List.length_drop, hslice]
    omega

namespace Block

variable {block : Block} {address target : Address} {start stop : Nat}

/-- An address names a slot if it points into the region at a multiple of the slot size. -/
theorem slotStart?_eq_some_iff :
    block.slotStart? address = some start ↔
      address.block = block.id ∧ address.offset.toNat < block.regionBytes ∧
        block.objectSize ∣ address.offset.toNat ∧ start = address.offset.toNat := by
  simp only [slotStart?, Bool.and_eq_true, contains_iff, beq_iff_eq, ← Nat.dvd_iff_mod_eq_zero,
    Option.ite_none_right_eq_some, Option.some.injEq, and_assoc, eq_comm (a := start)]

/-- A slot stops one slot size after its start. -/
theorem slotRange?_eq_some_iff :
    block.slotRange? address = some (start, stop) ↔
      block.slotStart? address = some start ∧ stop = start + block.objectSize ∧
        stop < UInt64.size ∧ stop ≤ block.regionBytes := by
  unfold slotRange? sizeSum?
  cases block.slotStart? address with
  | none => simp
  | some place =>
      by_cases hsum : place + block.objectSize < UInt64.size
      · by_cases hle : place + block.objectSize ≤ block.regionBytes
        · simp only [Option.bind_eq_bind, Option.bind_some, if_pos hsum, if_pos hle,
            Option.pure_def, Option.some.injEq, Prod.mk.injEq]
          constructor
          · rintro ⟨rfl, rfl⟩
            exact ⟨rfl, rfl, hsum, hle⟩
          · rintro ⟨rfl, rfl, -, -⟩
            exact ⟨rfl, rfl⟩
        · simp only [Option.bind_eq_bind, Option.bind_some, if_pos hsum, if_neg hle, reduceCtorEq,
            Option.some.injEq, false_iff]
          rintro ⟨rfl, rfl, -, hinside⟩
          exact hle hinside
      · simp only [Option.bind_eq_bind, Option.bind_some, if_neg hsum, Option.bind_none,
          reduceCtorEq, Option.some.injEq, false_iff]
        rintro ⟨rfl, rfl, hword, -⟩
        exact hsum hword

theorem block_eq_of_slotRange? (h : block.slotRange? address = some (start, stop)) :
    address.block = block.id :=
  (slotStart?_eq_some_iff.1 (slotRange?_eq_some_iff.1 h).1).1

namespace WellFormed

/-- Places in the region are far from the end of 64 bits. -/
theorem sizeSum?_eq (h : block.WellFormed) {left right : Nat}
    (hle : left + right ≤ block.regionBytes) : sizeSum? left right = some (left + right) := by
  have hlimit : Memory.offsetLimit ≤ UInt64.size := by decide
  apply if_pos
  exact Nat.lt_of_le_of_lt hle (Nat.lt_of_lt_of_le h.region_lt hlimit)

/-- A slot that starts inside the region ends there. -/
theorem start_add_le (h : block.WellFormed) (hstart : block.slotStart? address = some start) :
    start + block.objectSize ≤ block.regionBytes := by
  rcases slotStart?_eq_some_iff.1 hstart with ⟨-, hinside, hdvd, rfl⟩
  exact Nat.le_of_lt_add_of_dvd (Nat.add_lt_add_right hinside _)
    (Nat.dvd_add hdvd (Nat.dvd_refl _)) h.dvd_region

theorem slotRange?_eq (h : block.WellFormed) (hstart : block.slotStart? address = some start) :
    block.slotRange? address = some (start, start + block.objectSize) := by
  have hle := h.start_add_le hstart
  simp only [slotRange?, hstart, h.sizeSum?_eq hle, Option.bind_eq_bind, Option.bind_some,
    if_pos hle, Option.pure_def]

end WellFormed

theorem WellFormed.isSome_bytes?_iff (h : block.WellFormed) :
    (block.bytes? address).isSome ↔
      address.block = block.id ∧ address.offset.toNat < block.regionBytes ∧
        block.objectSize ∣ address.offset.toNat := by
  rw [bytes?, Option.isSome_map, Option.isSome_iff_exists]
  constructor
  · rintro ⟨⟨start, stop⟩, hrange⟩
    rcases slotStart?_eq_some_iff.1 (slotRange?_eq_some_iff.1 hrange).1 with
      ⟨hid, hinside, hdvd, -⟩
    exact ⟨hid, hinside, hdvd⟩
  · rintro ⟨hid, hinside, hdvd⟩
    exact ⟨_, h.slotRange?_eq (slotStart?_eq_some_iff.2 ⟨hid, hinside, hdvd, rfl⟩)⟩

/-- The bytes of a slot lie where the slot does. -/
theorem bytes?_eq_slice (h : block.slotRange? address = some (start, stop)) :
    block.bytes? address = some (block.contents.slice start block.objectSize) := by
  rcases slotRange?_eq_some_iff.1 h with ⟨-, rfl, -, -⟩
  simp only [bytes?, h, Option.map_some, Nat.add_sub_cancel_left]

/-- There are no bytes but those of a slot. -/
theorem exists_slotRange?_of_bytes? {slot : List UInt8} (h : block.bytes? address = some slot) :
    ∃ start stop, block.slotRange? address = some (start, stop) ∧
      slot = block.contents.slice start block.objectSize := by
  rcases Option.map_eq_some_iff.1 h with ⟨⟨start, stop⟩, hrange, -⟩
  rw [bytes?_eq_slice hrange] at h
  exact ⟨start, stop, hrange, (Option.some.inj h).symm⟩

theorem length_of_bytes? {slot : List UInt8} (h : block.bytes? address = some slot) :
    slot.length = block.objectSize := by
  rcases exists_slotRange?_of_bytes? h with ⟨start, stop, -, rfl⟩
  exact block.contents.length_slice start block.objectSize

/-! ## Operations that write nothing -/

theorem slotRange?_congr {other : Block} (hid : other.id = block.id)
    (hsize : other.objectSize = block.objectSize)
    (hregion : other.regionBytes = block.regionBytes) :
    other.slotRange? address = block.slotRange? address := by
  rw [slotRange?, slotRange?, slotStart?, slotStart?, contains, contains, hid, hsize, hregion]

@[simp]
theorem take_contents (block : Block) : block.take.contents = block.contents := by
  unfold take
  split <;> rfl

@[simp]
theorem bytes?_take (block : Block) (address : Address) :
    block.take.bytes? address = block.bytes? address := by
  rw [bytes?, slotRange?_congr block.take_id block.take_objectSize block.take_regionBytes,
    take_contents, bytes?]

@[simp]
theorem bytes?_pushFree (block : Block) (offset : UInt32) (address : Address) :
    (block.pushFree offset).bytes? address = block.bytes? address :=
  rfl

@[simp]
theorem bytes?_reclaim (block : Block) (address : Address) :
    block.reclaim.bytes? address = block.bytes? address :=
  rfl

/-- The slots of a new block are all zeros. -/
theorem eq_zeros_of_bytes?_fresh {id : BlockId} {objectSize regionBytes : Nat} {slot : List UInt8}
    (h : (fresh id objectSize regionBytes).bytes? address = some slot) :
    slot = List.replicate objectSize 0 := by
  rcases exists_slotRange?_of_bytes? h with ⟨start, stop, -, rfl⟩
  exact Region.slice_zero start objectSize

/-! ## Writing -/

/-- The slots of two addresses of one block do not overlap. -/
theorem slots_apart {other : Nat} (haddress : block.slotStart? address = some other)
    (htarget : block.slotStart? target = some start) (hne : target ≠ address) :
    start + block.objectSize ≤ other ∨ other + block.objectSize ≤ start := by
  rcases slotStart?_eq_some_iff.1 haddress with ⟨hblock, -, hdvd, rfl⟩
  rcases slotStart?_eq_some_iff.1 htarget with ⟨hblock', -, hdvd', rfl⟩
  have hoffset : target.offset.toNat ≠ address.offset.toNat := by
    intro heq
    apply hne
    cases target
    cases address
    simp_all [UInt32.toNat_inj]
  rcases Nat.lt_or_gt_of_ne hoffset with hlt | hlt
  · exact Or.inl (Nat.le_of_lt_add_of_dvd (Nat.add_lt_add_right hlt _)
      (Nat.dvd_add hdvd' (Nat.dvd_refl _)) hdvd)
  · exact Or.inr (Nat.le_of_lt_add_of_dvd (Nat.add_lt_add_right hlt _)
      (Nat.dvd_add hdvd (Nat.dvd_refl _)) hdvd')

/-- A write lays its bytes over the slot of its own address and leaves all others as they were. -/
theorem bytes?_overwrite (htarget : block.slotRange? target = some (start, stop))
    (bytes : List UInt8) :
    (block.overwrite start bytes).bytes? address =
      (block.bytes? address).map fun slot =>
        if target = address then overlay bytes slot else slot := by
  have hplace : (block.overwrite start bytes).slotRange? address = block.slotRange? address :=
    slotRange?_congr rfl rfl rfl
  cases hrange : block.slotRange? address with
  | none => rw [bytes?, bytes?, hplace, hrange, Option.map_none, Option.map_none, Option.map_none]
  | some range =>
      rcases range with ⟨other, otherStop⟩
      rw [bytes?_eq_slice (hplace.trans hrange), bytes?_eq_slice hrange, Option.map_some]
      by_cases hsame : target = address
      · rw [hsame, hrange] at htarget
        rw [if_pos hsame, ← (Prod.mk.inj (Option.some.inj htarget)).1]
        exact congrArg some (Region.slice_write_take block.contents other block.objectSize bytes)
      · have hapart := slots_apart (slotRange?_eq_some_iff.1 hrange).1
          (slotRange?_eq_some_iff.1 htarget).1 hsame
        have hlength := List.length_take_le block.objectSize bytes
        have hdisjoint : start + (bytes.take block.objectSize).length ≤ other ∨
            other + block.objectSize ≤ start := by
          omega
        rw [if_neg hsame]
        exact congrArg some (Region.slice_write_of_disjoint block.contents hdisjoint)

end Block

end SlotPool
