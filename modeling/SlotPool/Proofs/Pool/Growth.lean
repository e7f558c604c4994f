import SlotPool.Proofs.Pool.Integrity

/-!
# Growth that fails

A pool that cannot be given a block may have doubled its array of references before.  It keeps the
larger array, and this is all that a failure leaves behind.  It goes unnoticed later on as long as
the system would grant that array again: where the array would have been doubled, it already is.

Main definitions:

- `Pool.withCapacity`: a pool with another capacity of its array of references.
- `Pool.Doubled`: the array of references is full, and was doubled ahead of time.

Main results:

- Theorem `Pool.allocate_error_cases`: what a pool is left with that cannot hand out a slot.
- Theorem `Pool.Doubled.grow_eq`: such a pool grows as it would have before, if it were granted the
  array again.
-/

namespace SlotPool

open Fresh

/-- Only memory can be wanting for a block that was planned. -/
theorem Block.outOfMemory_of_create {memory : Memory} {objectSize requested regionBytes : Nat}
    {drawn : List BlockId} {fault : Fault} (hplan : plan objectSize requested = .ok regionBytes)
    (h : (create memory objectSize requested).Gives drawn (.error fault)) :
    ∃ bytes, fault = .outOfMemory bytes := by
  cases hreserve : reserve memory objectSize regionBytes with
  | error cause =>
      simp only [create, hplan, hreserve, gives_done_iff, Except.error.injEq] at h
      rw [← h.2]
      exact outOfMemory_of_reserve hreserve
  | ok _ => simp [create, hplan, hreserve] at h

namespace Pool

variable {memory : Memory} {drawn : List BlockId} {pool after ahead : Pool} {fault : Fault}

/-! ## What a failure leaves behind -/

/-- A pool with an array of references of another capacity. -/
def withCapacity (pool : Pool) (maxBlocks : Nat) : Pool :=
  { pool with maxBlocks }

/-- The array of references of a pool is full, and was doubled ahead of time. -/
structure Doubled (pool ahead : Pool) : Prop where
  full : pool.blocks.size = pool.maxBlocks
  eq : ahead = pool.withCapacity (pool.maxBlocks * 2)

/-- Bytes of the array that a full array of references is replaced by. -/
def doubledBytes (pool : Pool) : Nat :=
  pool.maxBlocks * 2 * Memory.blockHeaderBytes

/-- Room for a reference is there, or it is made by doubling a full array, or memory is wanting. -/
theorem reserveReference_cases (memory : Memory) (pool : Pool) :
    pool.reserveReference memory = .ok pool ∨
    (∃ ahead, pool.reserveReference memory = .ok ahead ∧ Doubled pool ahead) ∨
    (∃ bytes, pool.reserveReference memory = .error (.outOfMemory bytes)) := by
  unfold reserveReference
  by_cases hfull : pool.blocks.size = pool.maxBlocks
  · rw [if_pos hfull]
    cases hgrants : memory.grants (pool.maxBlocks * 2 * Memory.blockHeaderBytes) with
    | true =>
        rw [Memory.reserve_eq_ok_iff.2 hgrants]
        exact Or.inr (Or.inl ⟨_, rfl, hfull, rfl⟩)
    | false =>
        simp only [Memory.reserve, hgrants, Bool.false_eq_true, if_false]
        exact Or.inr (Or.inr ⟨_, rfl⟩)
  · rw [if_neg hfull]
    exact Or.inl rfl

/-- A pool fails to grow only for want of memory, and is left as it was or with a larger array. -/
theorem grow_error_cases {regionBytes : Nat}
    (hplan : Block.plan pool.objectSize pool.blockBytes = .ok regionBytes)
    (h : (pool.grow memory).Gives drawn (.error fault, after)) :
    (∃ bytes, fault = .outOfMemory bytes) ∧ (after = pool ∨ Doubled pool after) := by
  have hbuild {roomy : Pool}
      (hsizes : Block.plan roomy.objectSize roomy.blockBytes = .ok regionBytes)
      (hroomy : pool.reserveReference memory.first = .ok roomy) :
      (∃ bytes, fault = .outOfMemory bytes) ∧ after = roomy := by
    simp only [grow, hroomy] at h
    rcases gives_bind_iff.1 h with ⟨own, rest, built, -, hcreate, hrest⟩
    cases built with
    | error cause =>
        simp only [gives_done_iff, Prod.mk.injEq, Except.error.injEq] at hrest
        rcases hrest with ⟨-, rfl, rfl⟩
        exact ⟨Block.outOfMemory_of_create hsizes hcreate, rfl⟩
    | ok block => simp at hrest
  rcases reserveReference_cases memory.first pool with
    hsame | ⟨ahead, hahead, hdoubled⟩ | ⟨bytes, hfails⟩
  · rcases hbuild hplan hsame with ⟨hfault, rfl⟩
    exact ⟨hfault, Or.inl rfl⟩
  · have hsizes : Block.plan ahead.objectSize ahead.blockBytes = .ok regionBytes := by
      rw [hdoubled.eq]
      exact hplan
    rcases hbuild hsizes hahead with ⟨hfault, rfl⟩
    exact ⟨hfault, Or.inr hdoubled⟩
  · simp only [grow, hfails, gives_done_iff, Prod.mk.injEq, Except.error.injEq] at h
    exact ⟨⟨bytes, h.2.1.symm⟩, Or.inl h.2.2.symm⟩

/-- A slot is refused only if no block has room and the pool cannot grow. -/
theorem allocate_error_cases {regionBytes : Nat}
    (hplan : Block.plan pool.objectSize pool.blockBytes = .ok regionBytes)
    (h : (pool.allocate memory).Gives drawn (.error fault, after)) :
    drawn = [] ∧ pool.roomIndex? = none ∧ (∃ bytes, fault = .outOfMemory bytes) ∧
      (after = pool ∨ Doubled pool after) := by
  rcases allocate_cases h with ⟨_, _, _, -, -, -, -, hok, -⟩ | ⟨_, rfl, hindex, -, -⟩ |
    ⟨_, _, -, -, -, hok, -⟩
  · contradiction
  · simp only [allocate, hindex] at h
    rcases gives_bind_iff.1 h with ⟨own, rest, ⟨result, middle⟩, hnone, hgrow, hrest⟩
    rcases grow_cases hgrow with ⟨cause, -, rfl, -⟩ | ⟨id, _, rfl, -, -, -⟩
    · simp only [gives_done_iff, Prod.mk.injEq, Except.error.injEq] at hrest
      rcases hrest with ⟨-, rfl, rfl⟩
      rcases grow_error_cases hplan hgrow with ⟨hfault, hafter⟩
      exact ⟨rfl, hindex, hfault, hafter⟩
    · contradiction
  · contradiction

/-! ## Growing from a larger array -/

/-- A pool whose array was doubled ahead of time grows as it would have before, if the array were
granted. -/
theorem Doubled.grow_eq (h : Doubled pool ahead)
    (hgranted : memory.first.grants pool.doubledBytes = true) :
    ahead.grow memory = pool.grow memory := by
  have hreserve : memory.first.reserve (pool.maxBlocks * 2 * Memory.blockHeaderBytes) = .ok () :=
    Memory.reserve_eq_ok_iff.2 hgranted
  have hpool : pool.reserveReference memory.first = .ok ahead := by
    rw [reserveReference, if_pos h.full, hreserve, h.eq]
    rfl
  have hahead : ahead.reserveReference memory.first = .ok ahead := by
    rw [reserveReference, h.eq]
    by_cases hagain : (pool.withCapacity (pool.maxBlocks * 2)).blocks.size =
        (pool.withCapacity (pool.maxBlocks * 2)).maxBlocks
    · -- Only an array without any room is still full after it was doubled.
      have hnone : pool.maxBlocks * 2 * 2 = pool.maxBlocks * 2 := by
        have hfull := h.full
        simp only [withCapacity] at hagain
        omega
      rw [if_pos hagain]
      simp only [withCapacity, hnone, hreserve]
    · rw [if_neg hagain]
  simp only [grow, hpool, hahead]

/-- An operation that adds no block leaves the doubled array ahead of its time. -/
theorem Doubled.of_frame (h : Doubled pool ahead)
    (hframe : after.blocks.size = pool.blocks.size ∧ after.maxBlocks = pool.maxBlocks) :
    Doubled after (after.withCapacity (pool.maxBlocks * 2)) := by
  rcases hframe with ⟨hsize, hmax⟩
  refine ⟨?_, ?_⟩
  · rw [hsize, hmax, h.full]
  · rw [hmax]

section Frame

variable (pool : Pool) (maxBlocks : Nat) (address : Address)

theorem write_withCapacity (bytes : List UInt8) :
    (pool.withCapacity maxBlocks).write address bytes =
      ((pool.write address bytes).1, (pool.write address bytes).2.withCapacity maxBlocks) := by
  have hrange : (pool.withCapacity maxBlocks).slotRange? address = pool.slotRange? address := rfl
  have hindex : (pool.withCapacity maxBlocks).blockIndex? address = pool.blockIndex? address := rfl
  unfold write
  rw [hrange, hindex]
  split
  · rfl
  · rfl

theorem free_withCapacity (check : FreeCheck) :
    (pool.withCapacity maxBlocks).free check address =
      ((pool.free check address).1, (pool.free check address).2.withCapacity maxBlocks) := by
  have hrefusal : (pool.withCapacity maxBlocks).refusal? check address =
      pool.refusal? check address := rfl
  have hindex : (pool.withCapacity maxBlocks).blockIndex? address = pool.blockIndex? address := rfl
  unfold free pushFree
  rw [hrefusal, hindex]
  split
  · rfl
  · split
    · rfl
    · rfl

theorem write_frame (bytes : List UInt8) :
    (pool.write address bytes).2.blocks.size = pool.blocks.size ∧
      (pool.write address bytes).2.maxBlocks = pool.maxBlocks := by
  rcases hwrite : pool.write address bytes with ⟨written, after⟩
  rcases write_cases hwrite with ⟨-, rfl⟩ | ⟨index, block, start, stop, -, -, -, rfl⟩
  · exact ⟨rfl, rfl⟩
  · exact ⟨Array.size_modify, rfl⟩

theorem free_frame (check : FreeCheck) :
    (pool.free check address).2.blocks.size = pool.blocks.size ∧
      (pool.free check address).2.maxBlocks = pool.maxBlocks := by
  rcases hfree : pool.free check address with ⟨result, after⟩
  rcases free_cases hfree with ⟨fault, -, -, rfl⟩ | ⟨index, block, -, -, -, -, rfl⟩
  · exact ⟨rfl, rfl⟩
  · exact ⟨Array.size_modify, rfl⟩

end Frame

end Pool

end SlotPool
