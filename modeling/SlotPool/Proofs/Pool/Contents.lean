import SlotPool.Proofs.Block.Contents
import SlotPool.Proofs.Pool.Reached

/-!
# Slots keep their contents

Blocks never move and slots never alias.  Whatever addresses a pool is given, a slot holds what
was written through its own address, laid over zeros in the order of the writes; and once an
address names a slot, it names the same slot for ever.

Main definitions:

- `Pool.Retained`: what the slot of an address holds, and what becomes of it later.

Main results:

- Theorem `Pool.Step.bytes?_eq_map`: what one step does to the slots of the blocks that a pool has.
- Theorem `Pool.Step.bytes?_of_not_mem`: the slots of a block that a step adds are all zeros.
- Theorem `Pool.Reached.getD_bytes?`: what the slots of a pool hold after a history.
- Theorem `Pool.contents_retained`: this is what they hold however the pool is used.
-/

namespace SlotPool.Pool

open Fresh

variable {memory part present : Memory} {config : Config} {drawn more : List BlockId}
variable {events : List Event} {pool after : Pool} {address : Address}

/-! ## Slots of one block -/

/-- The slot of an address of a block is a slot of that block. -/
theorem bytes?_eq (hdistinct : pool.ids.Nodup) {index : Nat} {block : Block}
    (hblock : pool.blocks[index]? = some block) (hid : address.block = block.id) :
    pool.bytes? address = block.bytes? address := by
  rw [bytes?, owner?_eq_bind, blockIndex?_eq hdistinct hblock hid]
  by_cases hcontains : block.contains address = true
  · rw [if_pos hcontains, Option.bind_some, hblock, Option.bind_some]
  · rw [if_neg hcontains, Option.bind_none, Option.bind_none]
    simp [Block.bytes?, Block.slotRange?, Block.slotStart?, hcontains]

theorem exists_block_of_mem_ids (h : address.block ∈ pool.ids) :
    ∃ (index : Nat) (block : Block), pool.blocks[index]? = some block ∧
      address.block = block.id := by
  rcases mem_ids_iff.1 h with ⟨block, hmem, hid⟩
  rcases Array.mem_iff_getElem?.1 hmem with ⟨index, hblock⟩
  exact ⟨index, block, hblock, hid.symm⟩

/-- A slot belongs to one block of the pool. -/
theorem exists_block_of_bytes? {slot : List UInt8} (h : pool.bytes? address = some slot) :
    ∃ (index : Nat) (block : Block), pool.blocks[index]? = some block ∧
      address.block = block.id := by
  apply exists_block_of_mem_ids
  by_contra hforeign
  rw [bytes?_foreign hforeign] at h
  contradiction

/-- A change to one block that keeps its identity changes at most the slots of that block. -/
theorem bytes?_revise (hdistinct : pool.ids.Nodup) {index : Nat} {block : Block}
    {change : Block → Block} (hblock : pool.blocks[index]? = some block)
    (hid : ∀ block, (change block).id = block.id) :
    (pool.revise index change).bytes? address =
      if address.block = block.id then (change block).bytes? address else pool.bytes? address := by
  have hids := ids_revise pool index hid
  have hdistinct' : (pool.revise index change).ids.Nodup := hids ▸ hdistinct
  by_cases hhere : address.block = block.id
  · have hchanged : (pool.revise index change).blocks[index]? = some (change block) := by
      simp [revise, Array.getElem?_modify, hblock]
    rw [if_pos hhere, bytes?_eq hdistinct' hchanged (hhere.trans (hid block).symm)]
  · rw [if_neg hhere]
    by_cases hknown : address.block ∈ pool.ids
    · rcases exists_block_of_mem_ids hknown with ⟨other, owner, howner, hother⟩
      have hne : index ≠ other := by
        rintro rfl
        rw [hblock] at howner
        exact hhere (Option.some.inj howner ▸ hother)
      have hkept : (pool.revise index change).blocks[other]? = some owner := by
        simp [revise, Array.getElem?_modify, hne, howner]
      rw [bytes?_eq hdistinct' hkept hother, bytes?_eq hdistinct howner hother]
    · rw [bytes?_foreign hknown, bytes?_foreign (hids ▸ hknown)]

/-- A change that touches neither the place nor the contents of the slots of a block is not seen by
readers. -/
theorem bytes?_revise_of_eq (hdistinct : pool.ids.Nodup) {index : Nat} {block : Block}
    {change : Block → Block} (hblock : pool.blocks[index]? = some block)
    (hid : ∀ block, (change block).id = block.id)
    (hbytes : ∀ block address, (change block).bytes? address = block.bytes? address) :
    (pool.revise index change).bytes? address = pool.bytes? address := by
  rw [bytes?_revise hdistinct hblock hid]
  split
  · next hhere => rw [hbytes, bytes?_eq hdistinct hblock hhere]
  · rfl

theorem bytes?_takeAt (hdistinct : pool.ids.Nodup) {index : Nat} {block : Block}
    (hblock : pool.blocks[index]? = some block) :
    (pool.takeAt index).bytes? address = pool.bytes? address :=
  bytes?_revise_of_eq hdistinct hblock Block.take_id Block.bytes?_take

theorem bytes?_reclaim (pool : Pool) (address : Address) :
    pool.reclaim.bytes? address = pool.bytes? address := by
  have hcontains : ∀ block : Block, block.reclaim.contains address = block.contains address :=
    fun _ => rfl
  simp only [bytes?, owner?, reclaim, Array.find?_map, Function.comp_def, hcontains]
  cases pool.blocks.find? (·.contains address) with
  | none => rfl
  | some block => exact block.bytes?_reclaim address

/-- A block added has slots of its own, all zeros, and changes no other slot. -/
theorem bytes?_grown {id : BlockId} {regionBytes : Nat}
    (hdistinct : (pool.grown id regionBytes).ids.Nodup) :
    (pool.grown id regionBytes).bytes? address =
      if address.block = id then (Block.fresh id pool.objectSize regionBytes).bytes? address
      else pool.bytes? address := by
  split
  · next hhere => exact bytes?_eq hdistinct Array.getElem?_push_size hhere
  · next hne =>
      by_cases hknown : address.block ∈ pool.ids
      · rcases exists_block_of_mem_ids hknown with ⟨index, block, hblock, hid⟩
        have hkept : (pool.grown id regionBytes).blocks[index]? = some block := by
          have hlt := (Array.getElem?_eq_some_iff.1 hblock).1
          rw [grown, Array.getElem?_push_lt hlt, ← hblock, Array.getElem?_eq_getElem hlt]
        have hdistinct' : pool.ids.Nodup := by
          rw [ids_grown] at hdistinct
          exact (List.nodup_append.1 hdistinct).1
        rw [bytes?_eq hdistinct hkept hid, bytes?_eq hdistinct' hblock hid]
      · have hforeign : address.block ∉ (pool.grown id regionBytes).ids := by
          simp [hknown, hne]
        rw [bytes?_foreign hknown, bytes?_foreign hforeign]

/-! ## One step -/

/-- A step leaves the blocks their identities and their order, and adds one block at most. -/
theorem Step.ids_cases {event : Event} (hstep : Step pool more event after) :
    after.ids = pool.ids ∨
      ∃ id regionBytes, more = [id] ∧
        after = (pool.grown id regionBytes).takeAt pool.blocks.size := by
  cases hstep with
  | taken hindex hblock hnext => exact Or.inl (ids_takeAt pool _)
  | @grew id regionBytes hindex hplan => exact Or.inr ⟨id, regionBytes, rfl, rfl⟩
  | freed hblock hcontains hpasses =>
      exact Or.inl (ids_revise pool _ (Block.pushFree_id · _))
  | reclaimed => exact Or.inl (ids_reclaim pool)
  | @written target bytes index start stop block hblock hrange =>
      exact Or.inl (ids_revise pool index (Block.overwrite_id · start bytes))
  | _ => exact Or.inl rfl

theorem Step.ids_prefix {event : Event} (hstep : Step pool more event after) :
    pool.ids <+: after.ids := by
  rcases hstep.ids_cases with hids | ⟨id, regionBytes, -, rfl⟩
  · exact hids ▸ List.prefix_rfl
  · rw [ids_takeAt, ids_grown]
    exact List.prefix_append _ _

/-- A step adds no more blocks than it draws identities. -/
theorem Step.size_le {event : Event} (hstep : Step pool more event after) :
    after.blocks.size ≤ pool.blocks.size + more.length := by
  rw [← length_ids after, ← length_ids pool]
  rcases hstep.ids_cases with hids | ⟨id, regionBytes, rfl, rfl⟩
  · rw [hids]
    exact Nat.le_add_right _ _
  · simp

/-- In the blocks that a pool has, a step changes no slot but the one that it writes to. -/
theorem Step.bytes?_eq_map {event : Event} (hdistinct : after.ids.Nodup)
    (hstep : Step pool more event after) (hknown : address.block ∈ pool.ids) :
    after.bytes? address = (pool.bytes? address).map fun slot => event.overlaid address slot := by
  cases hstep with
  | taken hindex hblock hnext =>
      rw [ids_takeAt] at hdistinct
      rw [bytes?_takeAt hdistinct hblock]
      exact Option.map_id'.symm
  | @grew id regionBytes hindex hplan =>
      rw [ids_takeAt] at hdistinct
      have hne : address.block ≠ id := by
        rintro rfl
        rw [ids_grown] at hdistinct
        exact (List.nodup_append.1 hdistinct).2.2 _ hknown _ (List.mem_singleton_self _) rfl
      rw [bytes?_takeAt hdistinct Array.getElem?_push_size, bytes?_grown hdistinct, if_neg hne]
      exact Option.map_id'.symm
  | freed hblock hcontains hpasses =>
      rw [ids_revise pool _ (Block.pushFree_id · _)] at hdistinct
      rw [bytes?_revise_of_eq hdistinct hblock (Block.pushFree_id · _) (Block.bytes?_pushFree · _)]
      exact Option.map_id'.symm
  | reclaimed => exact (bytes?_reclaim pool address).trans Option.map_id'.symm
  | @written target bytes index start stop block hblock hrange =>
      rw [ids_revise pool index (Block.overwrite_id · start bytes)] at hdistinct
      rw [bytes?_revise hdistinct hblock (Block.overwrite_id · start bytes)]
      split
      · next hhere =>
          rw [bytes?_eq hdistinct hblock hhere, Block.bytes?_overwrite hrange]
          rfl
      · next hother =>
          have hne : target ≠ address := by
            rintro rfl
            exact hother (Block.block_eq_of_slotRange? hrange)
          simp [Event.overlaid, hne]
  | _ => exact Option.map_id'.symm

/-- The slots of a block that a step adds are all zeros. -/
theorem Step.bytes?_of_not_mem {event : Event} {slot : List UInt8} (hdistinct : after.ids.Nodup)
    (hstep : Step pool more event after) (hforeign : address.block ∉ pool.ids)
    (hslot : after.bytes? address = some slot) : slot = List.replicate pool.objectSize 0 := by
  rcases hstep.ids_cases with hids | ⟨id, regionBytes, -, rfl⟩
  · rw [bytes?_foreign (hids ▸ hforeign)] at hslot
    contradiction
  · rw [ids_takeAt] at hdistinct
    rw [bytes?_takeAt hdistinct Array.getElem?_push_size, bytes?_grown hdistinct] at hslot
    split at hslot
    · exact Block.eq_zeros_of_bytes?_fresh hslot
    · rw [bytes?_foreign hforeign] at hslot
      contradiction

/-- Nothing is written where there is no slot. -/
theorem Step.overlaid_of_none {event : Event} (hdistinct : pool.ids.Nodup)
    (hstep : Step pool more event after) (hnone : pool.bytes? address = none) (slot : List UInt8) :
    event.overlaid address slot = slot := by
  cases hstep with
  | @written target bytes index start stop block hblock hrange =>
      have hne : target ≠ address := by
        rintro rfl
        rw [bytes?_eq hdistinct hblock (Block.block_eq_of_slotRange? hrange),
          Block.bytes?_eq_slice hrange] at hnone
        contradiction
      exact if_neg hne
  | _ => rfl

/-! ## Which addresses name slots -/

/-- An address names a slot if it points into a block of the pool at a multiple of the slot size. -/
theorem Sound.isSome_bytes?_iff (h : Sound config drawn pool) (hdistinct : pool.ids.Nodup) :
    (pool.bytes? address).isSome ↔
      ∃ block ∈ pool.blocks, address.block = block.id ∧
        address.offset.toNat < block.regionBytes ∧ config.objectSize ∣ address.offset.toNat := by
  constructor
  · intro hsome
    rcases Option.isSome_iff_exists.1 hsome with ⟨slot, hslot⟩
    rcases exists_block_of_bytes? hslot with ⟨index, block, hblock, hid⟩
    have hmem := Array.mem_of_getElem? hblock
    rw [bytes?_eq hdistinct hblock hid, (h.wellFormed block hmem).isSome_bytes?_iff,
      (h.sized block hmem).1] at hsome
    exact ⟨block, hmem, hsome⟩
  · rintro ⟨block, hmem, hid, hinside, hdvd⟩
    rcases Array.mem_iff_getElem?.1 hmem with ⟨index, hblock⟩
    rw [bytes?_eq hdistinct hblock hid, (h.wellFormed block hmem).isSome_bytes?_iff,
      (h.sized block hmem).1]
    exact ⟨hid, hinside, hdvd⟩

theorem Sound.length_of_bytes? (h : Sound config drawn pool) (hdistinct : pool.ids.Nodup)
    {slot : List UInt8} (hslot : pool.bytes? address = some slot) :
    slot.length = config.objectSize := by
  rcases exists_block_of_bytes? hslot with ⟨index, block, hblock, hid⟩
  rw [bytes?_eq hdistinct hblock hid] at hslot
  rw [Block.length_of_bytes? hslot, (h.sized block (Array.mem_of_getElem? hblock)).1]

/-- A write succeeds if there is a slot to write to. -/
theorem fst_write (pool : Pool) (address : Address) (bytes : List UInt8) :
    (pool.write address bytes).1 = (pool.bytes? address).isSome := by
  rw [write, slotRange?, bytes?, owner?_eq_bind]
  cases hindex : pool.blockIndex? address with
  | none => rfl
  | some index =>
      rcases contains_of_blockIndex? hindex with ⟨block, hblock, -⟩
      simp only [Option.bind_some, hblock, Block.bytes?, Option.isSome_map]
      cases block.slotRange? address with
      | none => rfl
      | some range => rfl

/-- An address resolves to the index of its block if it points into the region. -/
theorem Sound.blockIndex?_eq_some_iff (h : Sound config drawn pool) (hdistinct : pool.ids.Nodup)
    {index : Nat} :
    pool.blockIndex? address = some index ↔
      pool.ids[index]? = some address.block ∧ address.offset.toNat < config.regionBytes := by
  constructor
  · intro hindex
    rcases contains_of_blockIndex? hindex with ⟨block, hblock, hcontains⟩
    rcases Block.contains_iff.1 hcontains with ⟨hid, hinside⟩
    rw [(h.sized block (Array.mem_of_getElem? hblock)).2] at hinside
    exact ⟨hid ▸ getElem?_ids hblock, hinside⟩
  · rintro ⟨hid, hinside⟩
    simp only [ids, List.getElem?_map, Array.getElem?_toList, Option.map_eq_some_iff] at hid
    rcases hid with ⟨block, hblock, hid⟩
    rw [← (h.sized block (Array.mem_of_getElem? hblock)).2] at hinside
    rw [blockIndex?_eq hdistinct hblock hid.symm, if_pos (Block.contains_iff.2 ⟨hid.symm, hinside⟩)]

/-! ## Histories -/

/-- What a slot holds after a history is what was written to it, laid over zeros; where there is no
slot yet, nothing was written. -/
theorem Reached.getD_bytes? (h : Reached memory config drawn events pool) (address : Address) :
    (pool.bytes? address).getD (List.replicate config.objectSize 0) =
      slotAfter config.objectSize address events := by
  induction h with
  | @created part drawn pool hpart hascending hcreate =>
      have hids := (Reached.created hpart hascending hcreate).nodup_ids
      cases hslot : pool.bytes? address with
      | none => rfl
      | some slot =>
          rcases exists_block_of_bytes? hslot with ⟨index, block, hblock, hid⟩
          rcases exists_fresh_of_create hcreate (Array.mem_of_getElem? hblock) with ⟨id, rfl⟩
          rw [bytes?_eq hids hblock hid] at hslot
          exact Block.eq_zeros_of_bytes?_fresh hslot
  | @acted part drawn more events pool after action answer hreached hpart hascending hact ih =>
      have hstep := step_of_act hact
      have hids := (hreached.acted hpart hascending hact).nodup_ids
      rw [slotAfter, List.foldl_append, ← slotAfter, ← ih, List.foldl_cons, List.foldl_nil]
      by_cases hknown : address.block ∈ pool.ids
      · rw [hstep.bytes?_eq_map hids hknown]
        cases hslot : pool.bytes? address with
        | none => exact (hstep.overlaid_of_none hreached.nodup_ids hslot _).symm
        | some slot => rfl
      · have hnone := bytes?_foreign hknown
        rw [hnone, Option.getD_none, hstep.overlaid_of_none hreached.nodup_ids hnone]
        cases hslot : after.bytes? address with
        | none => rfl
        | some slot =>
            rw [hstep.bytes?_of_not_mem hids hknown hslot, hreached.sound.objectSize_eq]
            rfl

/-- What holds at first and is kept by every step holds after a history. -/
theorem Reached.history_induction {motive : List Event → Pool → Prop} {actions : List Action}
    {later : List Event} (h : Reached memory config drawn events pool) (hpart : memory.Part part)
    (hascending : Ascending (drawn ++ more))
    (hhistory : (pool.history part actions).Gives more (later, after)) (hstart : motive [] pool)
    (hkeep : ∀ {early : List Event} {own : List BlockId} {event : Event} {middle next : Pool},
      motive early middle → next.ids.Nodup → Step middle own event next →
        motive (early ++ [event]) next) :
    motive later after := by
  induction actions generalizing part pool drawn more events later motive with
  | nil =>
      simp only [history_nil, gives_done_iff, Prod.mk.injEq] at hhistory
      rcases hhistory with ⟨-, rfl, rfl⟩
      exact hstart
  | cons action actions ih =>
      rcases gives_history_cons_iff.1 hhistory with
        ⟨own, rest, answer, middle, tail, rfl, hact, hrest, rfl⟩
      rw [← List.append_assoc] at hascending
      have hreached := h.acted hpart.first hascending.left hact
      apply ih (motive := fun early => motive (⟨action, answer⟩ :: early)) hreached hpart.rest
        hascending hrest
      · exact hkeep hstart hreached.nodup_ids (step_of_act hact)
      · intro early own event middle next hmotive hids hstep
        exact hkeep hmotive hids hstep

/-- Blocks keep their identities and their order whatever is done with the pool. -/
theorem Reached.ids_prefix {actions : List Action} {later : List Event}
    (h : Reached memory config drawn events pool) (hpart : memory.Part part)
    (hascending : Ascending (drawn ++ more))
    (hhistory : (pool.history part actions).Gives more (later, after)) :
    pool.ids <+: after.ids := by
  apply h.history_induction (motive := fun _ middle => pool.ids <+: middle.ids) hpart hascending
    hhistory
  · exact List.prefix_rfl
  · intro early own event middle next hprefix hids hstep
    exact hprefix.trans hstep.ids_prefix

/-- A slot that is there stays there, and later holds what was written to it in between. -/
theorem Reached.bytes?_history {actions : List Action} {later : List Event} {slot : List UInt8}
    (h : Reached memory config drawn events pool) (hpart : memory.Part part)
    (hascending : Ascending (drawn ++ more))
    (hhistory : (pool.history part actions).Gives more (later, after))
    (hslot : pool.bytes? address = some slot) :
    after.bytes? address = some (later.foldl (Event.overlaid address) slot) := by
  apply h.history_induction (motive := fun early middle =>
    middle.bytes? address = some (early.foldl (Event.overlaid address) slot)) hpart hascending
    hhistory
  · exact hslot
  · intro early own event middle next hmiddle hids hstep
    have hknown : address.block ∈ middle.ids := by
      rcases exists_block_of_bytes? hmiddle with ⟨index, block, hblock, hid⟩
      exact mem_ids_iff.2 ⟨block, Array.mem_of_getElem? hblock, hid.symm⟩
    rw [hstep.bytes?_eq_map hids hknown, hmiddle, List.foldl_append]
    rfl

/-- Events that do not write through an address leave its slot alone. -/
theorem foldl_overlaid_eq_self {events : List Event} {slot : List UInt8}
    (h : ∀ event ∈ events, ∀ bytes, event.action ≠ .write address bytes) :
    events.foldl (Event.overlaid address) slot = slot := by
  induction events with
  | nil => rfl
  | cons event events ih =>
      rcases List.forall_mem_cons.1 h with ⟨hevent, hevents⟩
      have hsame : event.overlaid address slot = slot := by
        unfold Event.overlaid
        split
        · next target bytes =>
            have hne : target ≠ address := by
              rintro rfl
              exact hevent bytes rfl
            exact if_neg hne
        · rfl
      rw [List.foldl_cons, hsame, ih hevents]

/-! ## The main result -/

/-- What the slot of an address of a pool of `config` holds after `events`, and what becomes of it
when `later` happens, which leaves the pool `after`. -/
structure Retained (config : Config) (events later : List Event) (pool after : Pool)
    (address : Address) : Prop where
  /-- There is a slot if the address names a block of the pool and points into its region at a
  multiple of the slot size, and not otherwise. -/
  isSome_iff : (pool.bytes? address).isSome ↔
    ∃ block ∈ pool.blocks, address.block = block.id ∧
      address.offset.toNat < block.regionBytes ∧ config.objectSize ∣ address.offset.toNat
  length_eq : ∀ slot, pool.bytes? address = some slot → slot.length = config.objectSize
  /-- The slot holds what was written through this address, laid over zeros in order. -/
  bytes_eq : ∀ slot, pool.bytes? address = some slot →
    slot = slotAfter config.objectSize address events
  /-- Writes through the address succeed as soon as there is a slot, and not before. -/
  written_iff : ∀ bytes, (pool.write address bytes).1 = true ↔ (pool.bytes? address).isSome
  /-- Later the slot is still there, with nothing but later writes through this address over it. -/
  kept : ∀ slot, pool.bytes? address = some slot →
    after.bytes? address = some (later.foldl (Event.overlaid address) slot)
  /-- Nothing changes the slot but a write through this address. -/
  unchanged : (∀ event ∈ later, ∀ bytes, event.action ≠ .write address bytes) →
    ∀ slot, pool.bytes? address = some slot → after.bytes? address = some slot
  /-- The address resolves to the same block for ever. -/
  index_kept : ∀ index, pool.blockIndex? address = some index →
    after.blockIndex? address = some index

/-- However a pool is used, blocks never move and slots never alias. -/
theorem contents_retained {actions : List Action} {later : List Event}
    (h : Reached memory config drawn events pool) (hascending : Ascending (drawn ++ more))
    (hhistory : (pool.history present actions).Gives more (later, after)) (address : Address) :
    Retained config events later pool after address := by
  have hpart := Memory.part_join_right memory present
  have hjoint := h.join present
  have hlater := hjoint.history hpart hascending hhistory
  refine ⟨h.sound.isSome_bytes?_iff h.nodup_ids, ?_, ?_, ?_, ?_, ?_, ?_⟩
  · intro slot hslot
    exact h.sound.length_of_bytes? h.nodup_ids hslot
  · intro slot hslot
    have hholds := h.getD_bytes? address
    rw [hslot] at hholds
    exact hholds
  · intro bytes
    rw [fst_write]
  · intro slot hslot
    exact hjoint.bytes?_history hpart hascending hhistory hslot
  · intro hothers slot hslot
    rw [hjoint.bytes?_history hpart hascending hhistory hslot, foldl_overlaid_eq_self hothers]
  · intro index hindex
    rcases (h.sound.blockIndex?_eq_some_iff h.nodup_ids).1 hindex with ⟨hid, hinside⟩
    apply (hlater.sound.blockIndex?_eq_some_iff hlater.nodup_ids).2
    rcases hjoint.ids_prefix hpart hascending hhistory with ⟨added, hids⟩
    rw [← hids, List.getElem?_append_left (List.getElem?_eq_some_iff.1 hid).1]
    exact ⟨hid, hinside⟩

/-! ## A careless history -/

/-- A slot is handed out and written; then places are freed at which no slot starts or that were
never handed out, and something is written where there is no block. -/
def misuseEvents : List Event :=
  [⟨.allocate, .issued ⟨⟨1⟩, 0⟩⟩, ⟨.write ⟨⟨1⟩, 0⟩ [1, 2, 3], .truth true⟩,
    ⟨.free .quick ⟨⟨1⟩, 3⟩, .done⟩, ⟨.free .quick ⟨⟨1⟩, 3⟩, .done⟩,
    ⟨.free .quick ⟨⟨1⟩, 8⟩, .refused (.doubleFree ⟨⟨1⟩, 8⟩)⟩,
    ⟨.write ⟨⟨2⟩, 0⟩ [9], .truth false⟩]

/-- The pool that these events leave. -/
def misusedPool : Pool where
  objectSize := 8
  blockBytes := 16
  blocks := #[{ Block.fresh ⟨1⟩ 8 16 with
    contents := Region.zero.write 0 [1, 2, 3], bumpCursor := 8, freeStack := #[3, 3] }]
  current := 0
  maxBlocks := 1

theorem reached_misusedPool :
    Reached .ample ⟨8, 1, 16⟩ [⟨1⟩] misuseEvents misusedPool := by
  have hcreate : (create Memory.ample.first ⟨8, 1, 16⟩).runFrom 1 =
      (.ok (ofBlocks ⟨8, 1, 16⟩ #[.fresh ⟨1⟩ 8 16]), 2) := by
    rfl
  have hhistory : ((ofBlocks ⟨8, 1, 16⟩ #[.fresh ⟨1⟩ 8 16]).history Memory.ample.rest
      (misuseEvents.map Event.action)).runFrom 2 = ((misuseEvents, misusedPool), 2) := by
    with_unfolding_all rfl
  exact reached_history hcreate hhistory

/-- The places freed in vain are handed out, and a block is added. -/
def sequelEvents : List Event :=
  [⟨.allocate, .issued ⟨⟨1⟩, 8⟩⟩, ⟨.write ⟨⟨1⟩, 8⟩ [7], .truth true⟩,
    ⟨.allocate, .issued ⟨⟨1⟩, 3⟩⟩, ⟨.allocate, .issued ⟨⟨1⟩, 3⟩⟩,
    ⟨.write ⟨⟨1⟩, 3⟩ [8], .truth false⟩, ⟨.write ⟨⟨1⟩, 0⟩ [4], .truth true⟩,
    ⟨.allocate, .issued ⟨⟨2⟩, 0⟩⟩, ⟨.reclaim, .done⟩]

/-- The pool that these events leave. -/
def sequelPool : Pool where
  objectSize := 8
  blockBytes := 16
  blocks := #[{ Block.fresh ⟨1⟩ 8 16 with
    contents := ((Region.zero.write 0 [1, 2, 3]).write 8 [7]).write 0 [4] }, .fresh ⟨2⟩ 8 16]
  current := 0
  maxBlocks := 2

theorem gives_sequelPool :
    (misusedPool.history .ample (sequelEvents.map Event.action)).Gives [⟨2⟩]
      (sequelEvents, sequelPool) := by
  have hrun : (misusedPool.history .ample (sequelEvents.map Event.action)).runFrom 2 =
      ((sequelEvents, sequelPool), 3) := by
    with_unfolding_all rfl
  exact gives_of_runFrom hrun

/-- After the careless history and its sequel the first slot holds what was written to it both
times. -/
theorem contents_retained_sequelPool :
    Reached .ample ⟨8, 1, 16⟩ [⟨1⟩] misuseEvents misusedPool ∧ Ascending ([⟨1⟩] ++ [⟨2⟩]) ∧
      (misusedPool.history .ample (sequelEvents.map Event.action)).Gives [⟨2⟩]
        (sequelEvents, sequelPool) ∧
      misusedPool.bytes? ⟨⟨1⟩, 0⟩ = some [1, 2, 3, 0, 0, 0, 0, 0] ∧
      sequelPool.bytes? ⟨⟨1⟩, 0⟩ = some [4, 2, 3, 0, 0, 0, 0, 0] ∧
      Retained ⟨8, 1, 16⟩ misuseEvents sequelEvents misusedPool sequelPool ⟨⟨1⟩, 0⟩ :=
  ⟨reached_misusedPool, by decide, gives_sequelPool, by decide +kernel, by decide +kernel,
    contents_retained reached_misusedPool (by decide) gives_sequelPool ⟨⟨1⟩, 0⟩⟩

end SlotPool.Pool
