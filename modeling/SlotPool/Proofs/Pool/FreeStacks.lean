import SlotPool.Proofs.Block.Balance
import SlotPool.Proofs.Pool.Steps

/-!
# Where the entries of free stacks come from

A free that is let pass puts its address on the free stack of the block that contains it.  Nothing
else puts an address there, and reclaiming takes all of them away.  The thorough check lets only the
addresses of slots pass, so any other address got there under the quick check.

Main definitions:

- `Pool.OnFreeStack`: an address waits to be handed out again.

Main results:

- Theorem `Pool.Step.onFreeStack_cases`: where an address comes from that waits after a step.
- Theorem `Block.dvd_of_thorough`: what the thorough check lets pass is a slot.
-/

namespace SlotPool

variable {memory : Memory} {drawn : List BlockId} {address : Address}

/-- The thorough check lets only the addresses of slots pass. -/
theorem Block.dvd_of_thorough {block : Block}
    (hpasses : block.refusal? .thorough address = none) :
    block.objectSize ∣ address.offset.toNat := by
  apply Nat.dvd_of_mod_eq_zero
  by_contra hmod
  simp [refusal?, hmod] at hpasses

/-- What is left on a free stack was there before. -/
theorem Block.mem_freeStack_of_take {block : Block} {offset : UInt32}
    (hmem : offset ∈ block.take.freeStack) : offset ∈ block.freeStack := by
  unfold take at hmem
  split at hmem
  · exact hmem
  · exact mem_of_mem_pop hmem

namespace Pool

variable {pool after : Pool}

/-- An address is on the free stack of its block. -/
def OnFreeStack (pool : Pool) (address : Address) : Prop :=
  ∃ block ∈ pool.blocks, block.id = address.block ∧ address.offset ∈ block.freeStack

/-- A change to one block puts on a free stack what it puts on the one of that block. -/
theorem onFreeStack_of_revise {index : Nat} {change : Block → Block}
    (hid : ∀ block, (change block).id = block.id)
    (h : (pool.revise index change).OnFreeStack address) :
    pool.OnFreeStack address ∨ ∃ block, pool.blocks[index]? = some block ∧
      block.id = address.block ∧ address.offset ∈ (change block).freeStack := by
  rcases h with ⟨block, hmem, hblock, hoffset⟩
  rcases Array.mem_iff_getElem?.1 hmem with ⟨other, hother⟩
  rw [revise, Array.getElem?_modify] at hother
  by_cases hindex : index = other
  · rw [if_pos hindex, ← hindex] at hother
    rcases Option.map_eq_some_iff.1 hother with ⟨old, hold, rfl⟩
    rw [hid] at hblock
    exact Or.inr ⟨old, hold, hblock, hoffset⟩
  · rw [if_neg hindex] at hother
    exact Or.inl ⟨block, Array.mem_of_getElem? hother, hblock, hoffset⟩

/-- A change that puts nothing on a free stack. -/
theorem onFreeStack_of_revise_of_subset {index : Nat} {change : Block → Block}
    (hid : ∀ block, (change block).id = block.id)
    (hstack : ∀ block, ∀ offset ∈ (change block).freeStack, offset ∈ block.freeStack)
    (h : (pool.revise index change).OnFreeStack address) : pool.OnFreeStack address := by
  rcases onFreeStack_of_revise hid h with hold | ⟨block, hblock, hname, hoffset⟩
  · exact hold
  · exact ⟨block, Array.mem_of_getElem? hblock, hname, hstack block _ hoffset⟩

theorem onFreeStack_of_takeAt {index : Nat} (h : (pool.takeAt index).OnFreeStack address) :
    pool.OnFreeStack address :=
  onFreeStack_of_revise_of_subset Block.take_id (fun _ _ => Block.mem_freeStack_of_take) h

theorem onFreeStack_of_grown {id : BlockId} {regionBytes : Nat}
    (h : (pool.grown id regionBytes).OnFreeStack address) : pool.OnFreeStack address := by
  rcases h with ⟨block, hmem, hblock, hoffset⟩
  rcases Array.mem_push.1 hmem with hold | rfl
  · exact ⟨block, hold, hblock, hoffset⟩
  · simp [Block.fresh] at hoffset

theorem not_onFreeStack_of_create {config : Config}
    (hcreate : (create memory config).Gives drawn (.ok pool)) : ¬ pool.OnFreeStack address := by
  rintro ⟨block, hmem, -, hoffset⟩
  rcases exists_fresh_of_create hcreate hmem with ⟨id, rfl⟩
  simp [Block.fresh] at hoffset

/-- After a step, an address on a free stack was there before, or its block just let it pass. -/
theorem Step.onFreeStack_cases {event : Event} (hstep : Step pool drawn event after)
    (h : after.OnFreeStack address) :
    (pool.OnFreeStack address ∧ event.action ≠ .reclaim) ∨
    (∃ check, ∃ block ∈ pool.blocks, block.refusal? check address = none ∧
      event = ⟨.free check address, .done⟩) := by
  cases hstep with
  | taken hindex hblock hnext => exact Or.inl ⟨onFreeStack_of_takeAt h, by simp⟩
  | grew hindex hplan => exact Or.inl ⟨onFreeStack_of_grown (onFreeStack_of_takeAt h), by simp⟩
  | @freed check target index block hblock hcontains hpasses =>
      have hid := (Block.contains_iff.1 hcontains).1
      rcases onFreeStack_of_revise (Block.pushFree_id · target.offset) h with
        hold | ⟨old, hold, hname, hoffset⟩
      · exact Or.inl ⟨hold, by simp⟩
      · rcases Option.some.inj (hblock.symm.trans hold) with rfl
        rcases Array.mem_push.1 hoffset with hbefore | htarget
        · exact Or.inl ⟨⟨block, Array.mem_of_getElem? hblock, hname, hbefore⟩, by simp⟩
        · have heq : target = address := by
            calc
              target = ⟨target.block, target.offset⟩ := rfl
              _ = ⟨address.block, address.offset⟩ := by rw [hid, hname, htarget]
          rw [← heq]
          exact Or.inr ⟨check, block, Array.mem_of_getElem? hblock, hpasses, rfl⟩
  | reclaimed =>
      rcases h with ⟨block, hmem, -, hoffset⟩
      rcases Array.mem_map.1 hmem with ⟨old, -, rfl⟩
      simp [Block.reclaim] at hoffset
  | @written target bytes index start stop block hblock hrange =>
      exact Or.inl ⟨onFreeStack_of_revise_of_subset (Block.overwrite_id · start bytes)
        (fun _ _ hmem => hmem) h, by simp⟩
  | stuck hindex hmax => exact Or.inl ⟨h, by simp⟩
  | refused hrefusal => exact Or.inl ⟨h, by simp⟩
  | unwritten => exact Or.inl ⟨h, by simp⟩
  | read => exact Or.inl ⟨h, by simp⟩
  | contains => exact Or.inl ⟨h, by simp⟩
  | blockIndex => exact Or.inl ⟨h, by simp⟩
  | elsewhere => exact Or.inl ⟨h, by simp⟩

end Pool

end SlotPool
