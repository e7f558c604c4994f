import SlotPool.Proofs.Pool.Steps

/-!
# Pools that get the memory they ask for

A pool asks the system for memory only when no block has room: for one more block, and for a larger
array of references when the old one is full.  If both are granted, a slot is handed out.

Main definitions:

- `Memory.Provides`: the system always grants one more block and an array of references of a certain
  length.
- `Pool.CanGrow`: the system grants just what a pool needs in order to grow.

Main results:

- Theorem `Pool.exists_address_of_allocate`: a pool that can grow if it has to hands out a slot.
-/

namespace SlotPool

open Fresh

variable {memory : Memory} {drawn : List BlockId}

/-- The reservations of a block are those of its region and of its free stack. -/
theorem Block.reserve_eq_ok_iff {objectSize regionBytes : Nat} :
    reserve memory objectSize regionBytes = .ok () ↔
      memory.first.grants regionBytes = true ∧
        memory.rest.grants (regionBytes / objectSize * Memory.offsetBytes) = true := by
  rw [← Memory.reserve_eq_ok_iff, ← Memory.reserve_eq_ok_iff, reserve]
  cases memory.first.reserve regionBytes with
  | error fault => simp [bind, Except.bind]
  | ok _ => simp [bind, Except.bind]

namespace Memory

/-- The system grants the reservations for a block whenever one is built, and every array of up to
`references` references to blocks. -/
structure Provides (memory : Memory) (objectSize regionBytes references : Nat) : Prop where
  region : memory.Always regionBytes
  stack : memory.Always (regionBytes / objectSize * offsetBytes)
  array : ∀ count ≤ references, memory.Always (count * blockHeaderBytes)

namespace Provides

variable {objectSize regionBytes references : Nat}

theorem mono {fewer : Nat} (h : memory.Provides objectSize regionBytes references)
    (hle : fewer ≤ references) : memory.Provides objectSize regionBytes fewer where
  region := h.region
  stack := h.stack
  array := fun count hcount => h.array count (Nat.le_trans hcount hle)

theorem part {part : Memory} (h : memory.Provides objectSize regionBytes references)
    (hpart : memory.Part part) : part.Provides objectSize regionBytes references where
  region := h.region.part hpart
  stack := h.stack.part hpart
  array := fun count hcount => (h.array count hcount).part hpart

theorem block (h : memory.Provides objectSize regionBytes references) :
    Block.reserve memory objectSize regionBytes = .ok () :=
  Block.reserve_eq_ok_iff.2 ⟨h.region.first.grants, h.stack.rest.grants⟩

/-- What can be expressed at all is provided by a system that grants everything. -/
theorem of_ample (hregion : regionBytes ≤ largestReservation)
    (hstack : regionBytes / objectSize * offsetBytes ≤ largestReservation)
    (harray : references * blockHeaderBytes ≤ largestReservation) :
    ample.Provides objectSize regionBytes references where
  region := ample_always_iff.2 hregion
  stack := ample_always_iff.2 hstack
  array := fun _ hcount =>
    ample_always_iff.2 (Nat.le_trans (Nat.mul_le_mul_right _ hcount) harray)

end Provides

end Memory

/-- A block is built if it is planned and its reservations are granted. -/
theorem Block.eq_ok_of_create {objectSize requested regionBytes : Nat} {result : Except Fault Block}
    (hplan : plan objectSize requested = .ok regionBytes)
    (hreserve : reserve memory objectSize regionBytes = .ok ())
    (h : (create memory objectSize requested).Gives drawn result) :
    ∃ id, drawn = [id] ∧ result = .ok (fresh id objectSize regionBytes) := by
  simp only [create, hplan, hreserve, gives_draw_iff, gives_done_iff] at h
  rcases h with ⟨id, rest, rfl, rfl, rfl⟩
  exact ⟨id, rfl, rfl⟩

namespace Pool

variable {pool after : Pool} {regionBytes : Nat}

/-- What a pool needs in order to grow is granted: a block, and if its array of references is full
one of twice the capacity. -/
structure CanGrow (memory : Memory) (pool : Pool) (regionBytes : Nat) : Prop where
  plan : Block.plan pool.objectSize pool.blockBytes = .ok regionBytes
  block : Block.reserve memory.rest pool.objectSize regionBytes = .ok ()
  array : pool.blocks.size = pool.maxBlocks →
    memory.first.grants (pool.maxBlocks * 2 * Memory.blockHeaderBytes) = true

theorem canGrow_of_provides
    (hplan : Block.plan pool.objectSize pool.blockBytes = .ok regionBytes)
    (hmemory : memory.Provides pool.objectSize regionBytes (2 * pool.blocks.size)) :
    CanGrow memory pool regionBytes where
  plan := hplan
  block := (hmemory.part Memory.Part.all.rest).block
  array := by
    intro hfull
    have hdoubled : pool.maxBlocks * 2 ≤ 2 * pool.blocks.size := by omega
    exact (hmemory.array _ hdoubled).first.grants

/-- A full array of references can be doubled. -/
theorem CanGrow.reserveReference_eq_ok (h : CanGrow memory pool regionBytes) :
    pool.reserveReference memory.first = .ok { pool with maxBlocks := pool.nextMaxBlocks } := by
  unfold reserveReference nextMaxBlocks
  split
  · next hfull => rw [Memory.reserve_eq_ok_iff.2 (h.array hfull)]
  · rfl

/-- A pool that gets what it asks for grows by one block, which takes an identity. -/
theorem CanGrow.exists_id_of_grow {result : Except Fault Unit} (h : CanGrow memory pool regionBytes)
    (hgrow : (pool.grow memory).Gives drawn (result, after)) : ∃ id, drawn = [id] := by
  simp only [grow, h.reserveReference_eq_ok] at hgrow
  rcases gives_bind_iff.1 hgrow with ⟨own, rest, built, rfl, hcreate, hrest⟩
  rcases Block.eq_ok_of_create h.plan h.block hcreate with ⟨id, rfl, rfl⟩
  exact ⟨id, congrArg ([id] ++ ·) hrest.1⟩

/-- A pool that can grow if it has to hands out a slot. -/
theorem exists_address_of_allocate {result : Except Fault Address}
    (hgrows : pool.roomIndex? = none → CanGrow memory pool regionBytes)
    (h : (pool.allocate memory).Gives drawn (result, after)) : ∃ address, result = .ok address := by
  rcases allocate_cases h with ⟨index, block, offset, -, -, -, -, rfl, -⟩ |
    ⟨fault, hnone, hindex, -, -⟩ | ⟨id, bytes, -, -, -, rfl, -⟩
  · exact ⟨_, rfl⟩
  · -- A failure draws no identity, but growing would have drawn one.
    simp only [allocate, hindex] at h
    rcases gives_bind_iff.1 h with ⟨own, rest, ⟨outcome, middle⟩, rfl, hgrow, -⟩
    rcases (hgrows hindex).exists_id_of_grow hgrow with ⟨id, rfl⟩
    contradiction
  · exact ⟨_, rfl⟩

/-- A pool that gets what it asks for hands out a slot. -/
theorem allocate_eq_ok {result : Except Fault Address}
    (hplan : Block.plan pool.objectSize pool.blockBytes = .ok regionBytes)
    (hmemory : memory.Provides pool.objectSize regionBytes (2 * pool.blocks.size))
    (h : (pool.allocate memory).Gives drawn (result, after)) :
    ∃ address, result = .ok address :=
  exists_address_of_allocate (fun _ => canGrow_of_provides hplan hmemory) h

end Pool

end SlotPool
