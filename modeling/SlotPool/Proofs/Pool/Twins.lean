import SlotPool.Proofs.Pool.Contents
import SlotPool.Proofs.Pool.Growth
import SlotPool.Proofs.Pool.Trace

/-!
# Reclaiming forgets everything

Once a pool is reclaimed, nothing that was done with it before can be noticed, however wrong it
was: the pool behaves as a new one with as many blocks.  The two have different identities and
different arrays of references, so they are compared by what their owners see of them: a slot is the
same in both if its offset and the index of its block are.

The system may refuse memory to the one and not to the other, and the new pool may ask for a larger
array of references when the old one need not.  So they answer the same up to the first request that
is refused for want of memory, and for ever if both get the memory they ask for.

Main definitions:

- `Address.SamePlace`: one offset in the blocks of one index.
- `Address.Matches`, `Action.Matches` and `Answer.Matches`: the same as far as the owners of two
  pools can see.
- `Pool.Answer.IsGranted`: no memory was wanting.
- `Pool.Twins`: two pools of the same numbers.
- `Pool.Abreast`: twins of which it is known how they came about.
- `Pool.RequestsMatch` and `Pool.AnswersMatch`: two pools are asked the same, and answer the same,
  at every step.

Main results:

- Theorem `Pool.Twins.act`: twins that are asked the same answer the same, and stay twins.
- Theorem `Pool.Abreast.trace`: so they do at every step, if both get the memory they ask for.
- Theorem `Pool.reclaim_forgets`: a reclaimed pool and a new one answer the same, as long as both
  get the memory they ask for.
-/

namespace SlotPool

open Fresh

/-! ## What owners see -/

/-- Addresses in two pools with blocks of the given identities that name the same place: one offset
in blocks of one index. -/
def Address.SamePlace (ids others : List BlockId) (address counterpart : Address) : Prop :=
  address.offset = counterpart.offset ∧ (address.block, counterpart.block) ∈ ids.zip others

/-- Addresses that are the same to the owners of two pools: they name the same place, or neither
belongs to a block of its pool. -/
def Address.Matches (ids others : List BlockId) (address counterpart : Address) : Prop :=
  address.SamePlace ids others counterpart ∨ address.block ∉ ids ∧ counterpart.block ∉ others

instance (ids others : List BlockId) (address counterpart : Address) :
    Decidable (address.SamePlace ids others counterpart) :=
  inferInstanceAs (Decidable (_ ∧ _))

instance (ids others : List BlockId) (address counterpart : Address) :
    Decidable (address.Matches ids others counterpart) :=
  inferInstanceAs (Decidable (_ ∨ _))

/-- One offset in the blocks of one index is the same place. -/
theorem Address.samePlace_of_getElem? {index : Nat} {id id' : BlockId} {ids others : List BlockId}
    (hid : ids[index]? = some id) (hid' : others[index]? = some id') (offset : UInt32) :
    SamePlace ids others ⟨id, offset⟩ ⟨id', offset⟩ :=
  ⟨rfl, List.mem_of_getElem? (List.getElem?_zip_eq_some.2 ⟨hid, hid'⟩)⟩

namespace Pool

/-- Requests that are the same to the owners of two pools.  Reading and writing are left out: what
slots hold is not forgotten. -/
def Action.Matches (ids others : List BlockId) : Action → Action → Prop
  | allocate, allocate => True
  | free check address, free check' counterpart =>
    check = check' ∧ address.Matches ids others counterpart
  | reclaim, reclaim => True
  | contains address, contains counterpart => address.Matches ids others counterpart
  | blockIndex address, blockIndex counterpart => address.Matches ids others counterpart
  | _, _ => False

instance (ids others : List BlockId) (action counterpart : Action) :
    Decidable (action.Matches ids others counterpart) := by
  cases action <;> cases counterpart <;>
    first
    | exact isTrue trivial
    | exact isFalse id
    | exact inferInstanceAs (Decidable (Address.Matches _ _ _ _))
    | exact inferInstanceAs (Decidable (_ ∧ _))

/-- Answers that are the same to the owners of two pools: equal, but for the addresses in them. -/
def Answer.Matches (ids others : List BlockId) : Answer → Answer → Prop
  | issued address, issued counterpart => address.SamePlace ids others counterpart
  | refused (.invalidFree address), refused (.invalidFree counterpart) =>
    address.Matches ids others counterpart
  | refused (.doubleFree address), refused (.doubleFree counterpart) =>
    address.Matches ids others counterpart
  | answer, counterpart => answer = counterpart

/-- No memory was wanting. -/
def Answer.IsGranted : Answer → Prop
  | refused (.outOfMemory _) => False
  | _ => True

section Granted

variable {memory : Memory} {pool after : Pool} {drawn : List BlockId} {regionBytes : Nat}

/-- A request for a slot fails only for want of memory. -/
theorem Answer.IsGranted.eq_ok_of_allocate {result : Except Fault Address}
    (h : (Answer.ofAllocate result).IsGranted)
    (hplan : Block.plan pool.objectSize pool.blockBytes = .ok regionBytes)
    (hallocate : (pool.allocate memory).Gives drawn (result, after)) :
    ∃ address, result = .ok address := by
  cases result with
  | ok address => exact ⟨address, rfl⟩
  | error fault =>
      rcases allocate_error_cases hplan hallocate with ⟨-, -, ⟨bytes, rfl⟩, -⟩
      exact absurd h id

/-- Memory plays no part in a free. -/
theorem isGranted_of_refusal? {check : FreeCheck} {address : Address} {fault : Fault}
    (h : pool.refusal? check address = some fault) : (Answer.refused fault).IsGranted := by
  unfold refusal? at h
  split at h
  · unfold Block.refusal? at h
    split at h
    · split at h
      · rcases Option.some.inj h with rfl
        trivial
      · split at h
        · rcases Option.some.inj h with rfl
          trivial
        · contradiction
    · split at h
      · rcases Option.some.inj h with rfl
        trivial
      · split at h
        · rcases Option.some.inj h with rfl
          trivial
        · contradiction
  · rcases Option.some.inj h with rfl
    trivial

/-- No memory is wanting to a pool that gets what it asks for. -/
theorem isGranted_of_provides {action : Action} {answer : Answer}
    (hplan : Block.plan pool.objectSize pool.blockBytes = .ok regionBytes)
    (hmemory : memory.Provides pool.objectSize regionBytes (2 * pool.blocks.size))
    (hact : (pool.act memory action).Gives drawn (answer, after)) : answer.IsGranted := by
  by_cases hallocates : action = .allocate
  · rw [hallocates] at hact
    rcases gives_act_allocate_iff.1 hact with ⟨result, rfl, hallocate⟩
    rcases allocate_eq_ok hplan hmemory hallocate with ⟨address, rfl⟩
    trivial
  · cases step_of_act hact with
    | taken | grew | stuck => contradiction
    | refused hrefusal => exact isGranted_of_refusal? hrefusal
    | _ => trivial

end Granted

end Pool

/-! ## Twin blocks -/

namespace Block

/-- Two blocks of the same numbers. -/
structure Twins (block other : Block) : Prop where
  objectSize_eq : block.objectSize = other.objectSize
  regionBytes_eq : block.regionBytes = other.regionBytes
  bumpCursor_eq : block.bumpCursor = other.bumpCursor
  freeStack_eq : block.freeStack = other.freeStack

namespace Twins

variable {block other : Block}

theorem hasRoom_eq (h : block.Twins other) : block.hasRoom = other.hasRoom := by
  rw [hasRoom, hasRoom, h.bumpCursor_eq, h.regionBytes_eq, h.freeStack_eq]

theorem nextOffset?_eq (h : block.Twins other) : block.nextOffset? = other.nextOffset? := by
  rw [nextOffset?, nextOffset?, h.bumpCursor_eq, h.regionBytes_eq, h.freeStack_eq]

theorem capacitySlots_eq (h : block.Twins other) : block.capacitySlots = other.capacitySlots := by
  rw [capacitySlots, capacitySlots, h.regionBytes_eq, h.objectSize_eq]

theorem contains_eq (h : block.Twins other) (offset : UInt32) :
    block.contains ⟨block.id, offset⟩ = other.contains ⟨other.id, offset⟩ := by
  simp only [contains, beq_self_eq_true, h.regionBytes_eq]

theorem take (h : block.Twins other) : block.take.Twins other.take := by
  unfold Block.take
  rw [h.bumpCursor_eq, h.regionBytes_eq, h.objectSize_eq, h.freeStack_eq]
  split
  · exact ⟨rfl, rfl, rfl, rfl⟩
  · exact ⟨rfl, rfl, rfl, rfl⟩

theorem pushFree (h : block.Twins other) (offset : UInt32) :
    (block.pushFree offset).Twins (other.pushFree offset) :=
  { h with freeStack_eq := congrArg (·.push offset) h.freeStack_eq }

theorem reclaim (h : block.Twins other) : block.reclaim.Twins other.reclaim :=
  { h with
    bumpCursor_eq := rfl
    freeStack_eq := rfl }

/-- Twin blocks refuse the same frees for the same reasons. -/
theorem refusal?_cases (h : block.Twins other) (check : FreeCheck) (offset : UInt32) :
    (block.refusal? check ⟨block.id, offset⟩ = none ∧
      other.refusal? check ⟨other.id, offset⟩ = none) ∨
    (block.refusal? check ⟨block.id, offset⟩ = some (.invalidFree ⟨block.id, offset⟩) ∧
      other.refusal? check ⟨other.id, offset⟩ = some (.invalidFree ⟨other.id, offset⟩)) ∨
    (block.refusal? check ⟨block.id, offset⟩ = some (.doubleFree ⟨block.id, offset⟩) ∧
      other.refusal? check ⟨other.id, offset⟩ = some (.doubleFree ⟨other.id, offset⟩)) := by
  cases check with
  | quick =>
      simp only [refusal?, h.contains_eq, h.freeStack_eq, h.capacitySlots_eq]
      by_cases houtside : (!other.contains ⟨other.id, offset⟩) = true
      · rw [if_pos houtside, if_pos houtside]
        exact Or.inr (Or.inl ⟨rfl, rfl⟩)
      · by_cases hfull : other.freeStack.size = other.capacitySlots
        · rw [if_neg houtside, if_neg houtside, if_pos hfull, if_pos hfull]
          exact Or.inr (Or.inr ⟨rfl, rfl⟩)
        · rw [if_neg houtside, if_neg houtside, if_neg hfull, if_neg hfull]
          exact Or.inl ⟨rfl, rfl⟩
  | thorough =>
      simp only [refusal?, h.contains_eq, h.freeStack_eq, h.bumpCursor_eq, h.objectSize_eq]
      by_cases hunissued : (!other.contains ⟨other.id, offset⟩ ||
          offset.toNat % other.objectSize != 0 || decide (other.bumpCursor ≤ offset.toNat)) = true
      · rw [if_pos hunissued, if_pos hunissued]
        exact Or.inr (Or.inl ⟨rfl, rfl⟩)
      · by_cases hfree : other.freeStack.contains offset = true
        · rw [if_neg hunissued, if_neg hunissued, if_pos hfree, if_pos hfree]
          exact Or.inr (Or.inr ⟨rfl, rfl⟩)
        · rw [if_neg hunissued, if_neg hunissued, if_neg hfree, if_neg hfree]
          exact Or.inl ⟨rfl, rfl⟩

end Twins

end Block

namespace Pool

variable {memory memory' past birth : Memory} {config : Config}
variable {drawn drawn' more more' : List BlockId}
variable {events : List Event} {pool other after after' : Pool}

/-! ## Twin pools -/

/-- Two pools of the same numbers, with as many blocks, which are twins one by one. -/
structure Twins (pool other : Pool) : Prop where
  objectSize_eq : pool.objectSize = other.objectSize
  blockBytes_eq : pool.blockBytes = other.blockBytes
  current_eq : pool.current = other.current
  size_eq : pool.blocks.size = other.blocks.size
  block : ∀ {index : Nat} {first second : Block}, pool.blocks[index]? = some first →
    other.blocks[index]? = some second → first.Twins second

namespace Twins

theorem exists_twin (h : Twins pool other) {index : Nat} {block : Block}
    (hblock : pool.blocks[index]? = some block) :
    ∃ twin, other.blocks[index]? = some twin ∧ block.Twins twin := by
  have hlt : index < other.blocks.size := h.size_eq ▸ (Array.getElem?_eq_some_iff.1 hblock).1
  have htwin := Array.getElem?_eq_getElem hlt
  exact ⟨_, htwin, h.block hblock htwin⟩

/-- The same index is asked first for a slot, and the same index has room. -/
theorem roomIndex?_eq (h : Twins pool other) : pool.roomIndex? = other.roomIndex? := by
  have hroom : pool.blocks.map Block.hasRoom = other.blocks.map Block.hasRoom := by
    apply Array.ext_getElem?
    intro index
    rw [Array.getElem?_map, Array.getElem?_map]
    cases hblock : pool.blocks[index]? with
    | none =>
        rw [Array.getElem?_eq_none_iff, h.size_eq, ← Array.getElem?_eq_none_iff] at hblock
        rw [hblock]
    | some block =>
        rcases h.exists_twin hblock with ⟨twin, htwin, htwins⟩
        rw [htwin, Option.map_some, Option.map_some, htwins.hasRoom_eq]
  have hat : ∀ (pool : Pool) (index : Nat),
      pool.hasRoomAt index = (pool.blocks.map Block.hasRoom)[index]?.any id := by
    intro pool index
    simp [hasRoomAt, Option.any_map]
  have hfind : ∀ pool : Pool,
      pool.blocks.findIdx? Block.hasRoom = (pool.blocks.map Block.hasRoom).findIdx? id := by
    intro pool
    simp [Array.findIdx?_map]
  rw [roomIndex?, roomIndex?, hat, hat, hfind, hfind, hroom, h.current_eq]

theorem revise (h : Twins pool other) (index : Nat) {change : Block → Block}
    (hchange : ∀ {first second : Block}, first.Twins second →
      (change first).Twins (change second)) :
    Twins (pool.revise index change) (other.revise index change) := by
  refine ⟨h.objectSize_eq, h.blockBytes_eq, h.current_eq, by simp [Pool.revise, h.size_eq], ?_⟩
  intro place first second hfirst hsecond
  rw [Pool.revise, Array.getElem?_modify] at hfirst hsecond
  split at hfirst
  · next hplace =>
      rw [if_pos hplace] at hsecond
      rcases Option.map_eq_some_iff.1 hfirst with ⟨block, hblock, rfl⟩
      rcases Option.map_eq_some_iff.1 hsecond with ⟨twin, htwin, rfl⟩
      exact hchange (h.block hblock htwin)
  · next hplace =>
      rw [if_neg hplace] at hsecond
      exact h.block hfirst hsecond

theorem takeAt (h : Twins pool other) (index : Nat) :
    Twins (pool.takeAt index) (other.takeAt index) :=
  { h.revise index Block.Twins.take with current_eq := rfl }

theorem grown (h : Twins pool other) (id id' : BlockId) (regionBytes : Nat) :
    Twins (pool.grown id regionBytes) (other.grown id' regionBytes) := by
  refine ⟨h.objectSize_eq, h.blockBytes_eq, h.current_eq, by simp [Pool.grown, h.size_eq], ?_⟩
  intro index first second hfirst hsecond
  rw [Pool.grown, Array.getElem?_push] at hfirst hsecond
  rw [← h.size_eq] at hsecond
  split at hfirst
  · next hlast =>
      rw [if_pos hlast] at hsecond
      rw [← Option.some.inj hfirst, ← Option.some.inj hsecond]
      exact ⟨h.objectSize_eq, rfl, rfl, rfl⟩
  · next hold =>
      rw [if_neg hold] at hsecond
      exact h.block hfirst hsecond

theorem reclaim (h : Twins pool other) : Twins pool.reclaim other.reclaim := by
  refine ⟨h.objectSize_eq, h.blockBytes_eq, rfl, by simp [Pool.reclaim, h.size_eq], ?_⟩
  intro index first second hfirst hsecond
  rw [Pool.reclaim, Array.getElem?_map] at hfirst hsecond
  rcases Option.map_eq_some_iff.1 hfirst with ⟨block, hblock, rfl⟩
  rcases Option.map_eq_some_iff.1 hsecond with ⟨twin, htwin, rfl⟩
  exact (h.block hblock htwin).reclaim

/-! ## Matching addresses -/

/-- Matching addresses have one offset in twin blocks, or belong to no block of their pool. -/
theorem matches_cases (h : Twins pool other) {address counterpart : Address}
    (hmatch : address.Matches pool.ids other.ids counterpart) :
    (∃ (index : Nat) (block twin : Block) (offset : UInt32), pool.blocks[index]? = some block ∧
      other.blocks[index]? = some twin ∧ block.Twins twin ∧ address = ⟨block.id, offset⟩ ∧
      counterpart = ⟨twin.id, offset⟩) ∨
    (address.block ∉ pool.ids ∧ counterpart.block ∉ other.ids) := by
  rcases hmatch with ⟨hoffset, hzip⟩ | hforeign
  · rcases List.getElem?_of_mem hzip with ⟨index, hindex⟩
    rcases List.getElem?_zip_eq_some.1 hindex with ⟨hid, hid'⟩
    simp only [ids, List.getElem?_map, Array.getElem?_toList, Option.map_eq_some_iff] at hid hid'
    rcases hid with ⟨block, hblock, hid⟩
    rcases hid' with ⟨twin, htwin, hid'⟩
    refine Or.inl ⟨index, block, twin, address.offset, hblock, htwin, h.block hblock htwin, ?_, ?_⟩
    · rw [hid]
    · rw [hid', hoffset]
  · exact Or.inr hforeign

/-- Matching addresses resolve to the same index, or to none. -/
theorem blockIndex?_eq (h : Twins pool other) (hdistinct : pool.ids.Nodup)
    (hdistinct' : other.ids.Nodup) {address counterpart : Address}
    (hmatch : address.Matches pool.ids other.ids counterpart) :
    pool.blockIndex? address = other.blockIndex? counterpart := by
  rcases h.matches_cases hmatch with
    ⟨index, block, twin, offset, hblock, htwin, htwins, rfl, rfl⟩ | ⟨hforeign, hforeign'⟩
  · rw [Pool.blockIndex?_eq hdistinct hblock rfl, Pool.blockIndex?_eq hdistinct' htwin rfl,
      htwins.contains_eq]
  · rw [blockIndex?_eq_none hforeign, blockIndex?_eq_none hforeign']

theorem contains_eq (h : Twins pool other) (hdistinct : pool.ids.Nodup)
    (hdistinct' : other.ids.Nodup) {address counterpart : Address}
    (hmatch : address.Matches pool.ids other.ids counterpart) :
    pool.contains address = other.contains counterpart := by
  have hindex := congrArg Option.isSome (h.blockIndex?_eq hdistinct hdistinct' hmatch)
  simpa only [Pool.blockIndex?, Array.findIdx?_isSome, Pool.contains] using hindex

/-- Twins refuse matching addresses for the same reason, or take both back. -/
theorem free_cases (h : Twins pool other) (hdistinct : pool.ids.Nodup)
    (hdistinct' : other.ids.Nodup) (check : FreeCheck) {address counterpart : Address}
    (hmatch : address.Matches pool.ids other.ids counterpart) :
    (pool.free check address = (.error (.invalidFree address), pool) ∧
      other.free check counterpart = (.error (.invalidFree counterpart), other)) ∨
    (pool.free check address = (.error (.doubleFree address), pool) ∧
      other.free check counterpart = (.error (.doubleFree counterpart), other)) ∨
    (∃ index, pool.free check address =
        (.ok (), pool.revise index (·.pushFree address.offset)) ∧
      other.free check counterpart =
        (.ok (), other.revise index (·.pushFree address.offset))) := by
  rcases h.matches_cases hmatch with
    ⟨index, block, twin, offset, hblock, htwin, htwins, rfl, rfl⟩ | ⟨hforeign, hforeign'⟩
  · rcases htwins.refusal?_cases check offset with
      ⟨hnone, hnone'⟩ | ⟨hinvalid, hinvalid'⟩ | ⟨hdouble, hdouble'⟩
    · exact Or.inr (Or.inr ⟨index, free_eq_revise hdistinct hblock rfl hnone,
        free_eq_revise hdistinct' htwin rfl hnone'⟩)
    · exact Or.inl ⟨free_eq_error hdistinct hblock rfl hinvalid,
        free_eq_error hdistinct' htwin rfl hinvalid'⟩
    · exact Or.inr (Or.inl ⟨free_eq_error hdistinct hblock rfl hdouble,
        free_eq_error hdistinct' htwin rfl hdouble'⟩)
  · exact Or.inl ⟨free_foreign hforeign check, free_foreign hforeign' check⟩

/-- Twins answer alike when matching addresses are freed, and are twins afterwards. -/
theorem free (h : Twins pool other) (hdistinct : pool.ids.Nodup) (hdistinct' : other.ids.Nodup)
    (check : FreeCheck) {address counterpart : Address}
    (hmatch : address.Matches pool.ids other.ids counterpart) {result result' : Except Fault Unit}
    (hfree : pool.free check address = (result, after))
    (hfree' : other.free check counterpart = (result', after')) :
    (Answer.ofFree result).Matches after.ids after'.ids (Answer.ofFree result') ∧
      Twins after after' := by
  rcases h.free_cases hdistinct hdistinct' check hmatch with
    ⟨hcase, hcase'⟩ | ⟨hcase, hcase'⟩ | ⟨index, hcase, hcase'⟩
  · rcases Prod.mk.inj (hfree.symm.trans hcase) with ⟨rfl, rfl⟩
    rcases Prod.mk.inj (hfree'.symm.trans hcase') with ⟨rfl, rfl⟩
    exact ⟨hmatch, h⟩
  · rcases Prod.mk.inj (hfree.symm.trans hcase) with ⟨rfl, rfl⟩
    rcases Prod.mk.inj (hfree'.symm.trans hcase') with ⟨rfl, rfl⟩
    exact ⟨hmatch, h⟩
  · rcases Prod.mk.inj (hfree.symm.trans hcase) with ⟨rfl, rfl⟩
    rcases Prod.mk.inj (hfree'.symm.trans hcase') with ⟨rfl, rfl⟩
    exact ⟨rfl, h.revise index (·.pushFree address.offset)⟩

/-- Twins hand out the slots of one place, if both get the memory they ask for. -/
theorem allocate (h : Twins pool other) {regionBytes : Nat}
    (hplan : Block.plan pool.objectSize pool.blockBytes = .ok regionBytes)
    {result result' : Except Fault Address}
    (hallocate : (pool.allocate memory).Gives more (result, after))
    (hallocate' : (other.allocate memory').Gives more' (result', after'))
    (hgranted : (Answer.ofAllocate result).IsGranted)
    (hgranted' : (Answer.ofAllocate result').IsGranted) :
    ∃ address counterpart, result = .ok address ∧ result' = .ok counterpart ∧
      address.SamePlace after.ids after'.ids counterpart ∧ Twins after after' := by
  have hroom := h.roomIndex?_eq
  rcases allocate_cases hallocate with
    ⟨index, block, offset, -, hindex, hblock, hnext, rfl, rfl⟩ | ⟨fault, -, -, rfl, -⟩ |
    ⟨id, bytes, -, hindex, hbytes, rfl, rfl⟩
  · rcases allocate_cases hallocate' with
      ⟨index', twin, offset', -, hindex', htwin, hnext', rfl, rfl⟩ | ⟨fault, -, hindex', -, -⟩ |
      ⟨id, bytes, -, hindex', -, -, -⟩
    · rw [hindex, hindex'] at hroom
      rcases Option.some.inj hroom with rfl
      rw [(h.block hblock htwin).nextOffset?_eq, hnext'] at hnext
      rcases Option.some.inj hnext with rfl
      refine ⟨_, _, rfl, rfl, ?_, h.takeAt index⟩
      rw [ids_takeAt, ids_takeAt]
      exact Address.samePlace_of_getElem? (getElem?_ids hblock) (getElem?_ids htwin) offset'
    · rw [hindex, hindex'] at hroom
      contradiction
    · rw [hindex, hindex'] at hroom
      contradiction
  · rcases hgranted.eq_ok_of_allocate hplan hallocate with ⟨address, hok⟩
    contradiction
  · have hplan' : Block.plan other.objectSize other.blockBytes = .ok regionBytes := by
      rw [← h.objectSize_eq, ← h.blockBytes_eq]
      exact hplan
    rcases allocate_cases hallocate' with
      ⟨index, twin, offset, -, hindex', -, -, -, -⟩ | ⟨fault, -, -, rfl, -⟩ |
      ⟨id', bytes', -, -, hbytes', rfl, rfl⟩
    · rw [hindex, hindex'] at hroom
      contradiction
    · rcases hgranted'.eq_ok_of_allocate hplan' hallocate' with ⟨address, hok⟩
      contradiction
    · rw [hplan] at hbytes
      rw [hplan'] at hbytes'
      rcases Except.ok.inj hbytes with rfl
      rcases Except.ok.inj hbytes' with rfl
      refine ⟨_, _, rfl, rfl, ?_, ?_⟩
      · have hid : (pool.ids ++ [id])[pool.blocks.size]? = some id := by simp
        have hid' : (other.ids ++ [id'])[pool.blocks.size]? = some id' := by simp [h.size_eq]
        rw [ids_takeAt, ids_takeAt, ids_grown, ids_grown]
        exact Address.samePlace_of_getElem? hid hid' 0
      · rw [← h.size_eq]
        exact (h.grown id id' regionBytes).takeAt pool.blocks.size

/-- Twins that are asked the same answer the same, and are twins afterwards. -/
theorem act (h : Twins pool other) {regionBytes : Nat}
    (hplan : Block.plan pool.objectSize pool.blockBytes = .ok regionBytes)
    (hdistinct : pool.ids.Nodup) (hdistinct' : other.ids.Nodup) {action action' : Action}
    (hmatch : action.Matches pool.ids other.ids action') {answer answer' : Answer}
    (hact : (pool.act memory action).Gives more (answer, after))
    (hact' : (other.act memory' action').Gives more' (answer', after'))
    (hgranted : answer.IsGranted) (hgranted' : answer'.IsGranted) :
    answer.Matches after.ids after'.ids answer' ∧ Twins after after' := by
  unfold Action.Matches at hmatch
  split at hmatch
  · rcases gives_act_allocate_iff.1 hact with ⟨result, rfl, hallocate⟩
    rcases gives_act_allocate_iff.1 hact' with ⟨result', rfl, hallocate'⟩
    rcases h.allocate hplan hallocate hallocate' hgranted hgranted' with
      ⟨address, counterpart, rfl, rfl, hmatch, htwins⟩
    exact ⟨hmatch, htwins⟩
  · next check address check' counterpart =>
      rcases hmatch with ⟨rfl, hmatch⟩
      rcases hfree : pool.free check address with ⟨result, middle⟩
      rcases hfree' : other.free check counterpart with ⟨result', middle'⟩
      simp only [act_free_eq hfree, act_free_eq hfree', gives_done_iff, Prod.mk.injEq]
        at hact hact'
      rcases hact with ⟨-, rfl, rfl⟩
      rcases hact' with ⟨-, rfl, rfl⟩
      exact h.free hdistinct hdistinct' check hmatch hfree hfree'
  · simp only [Pool.act, gives_done_iff, Prod.mk.injEq] at hact hact'
    rcases hact with ⟨-, rfl, rfl⟩
    rcases hact' with ⟨-, rfl, rfl⟩
    exact ⟨rfl, h.reclaim⟩
  · simp only [Pool.act, gives_done_iff, Prod.mk.injEq] at hact hact'
    rcases hact with ⟨-, rfl, rfl⟩
    rcases hact' with ⟨-, rfl, rfl⟩
    exact ⟨congrArg Answer.truth (h.contains_eq hdistinct hdistinct' hmatch), h⟩
  · simp only [Pool.act, gives_done_iff, Prod.mk.injEq] at hact hact'
    rcases hact with ⟨-, rfl, rfl⟩
    rcases hact' with ⟨-, rfl, rfl⟩
    exact ⟨congrArg Answer.index (h.blockIndex?_eq hdistinct hdistinct' hmatch), h⟩
  · contradiction

end Twins

/-! ## Twin traces -/

/-- At every step of two traces the owners of the two pools ask for the same. -/
def RequestsMatch (pool other : Pool) :
    List Action → List Action → List (Answer × Pool) → List (Answer × Pool) → Prop
  | action :: actions, action' :: actions', (_, after) :: moments, (_, after') :: moments' =>
    action.Matches pool.ids other.ids action' ∧
      RequestsMatch after after' actions actions' moments moments'
  | [], [], _, _ => True
  | _, _, _, _ => False

/-- At every step of two traces the owners of the two pools see the same answer, and as many
blocks. -/
def AnswersMatch (moments moments' : List (Answer × Pool)) : Prop :=
  List.Forall₂ (fun moment moment' =>
    moment.1.Matches moment.2.ids moment'.2.ids moment'.1 ∧
      moment.2.blockCount = moment'.2.blockCount) moments moments'

/-- Nothing was refused for want of memory. -/
def Granted (moments : List (Answer × Pool)) : Prop :=
  ∀ moment ∈ moments, moment.1.IsGranted

/-- Twins of which it is known how they came about. -/
structure Abreast (config config' : Config) (drawn drawn' : List BlockId) (pool other : Pool) :
    Prop where
  twins : Twins pool other
  sound : Sound config drawn pool
  sound_other : Sound config' drawn' other
  valid : config.validate = .ok ()
  valid_other : config'.validate = .ok ()

namespace Abreast

variable {config' : Config}

/-- Twins that are asked the same answer the same, and it is known of them how they go on. -/
theorem act (h : Abreast config config' drawn drawn' pool other)
    (hascending : Ascending (drawn ++ more)) (hascending' : Ascending (drawn' ++ more'))
    {action action' : Action} (hmatch : action.Matches pool.ids other.ids action')
    {answer answer' : Answer} (hact : (pool.act memory action).Gives more (answer, after))
    (hact' : (other.act memory' action').Gives more' (answer', after'))
    (hgranted : answer.IsGranted) (hgranted' : answer'.IsGranted) :
    answer.Matches after.ids after'.ids answer' ∧
      Abreast config config' (drawn ++ more) (drawn' ++ more') after after' := by
  have hdistinct := h.sound.ids_sublist.nodup hascending.left.nodup
  have hdistinct' := h.sound_other.ids_sublist.nodup hascending'.left.nodup
  rcases h.twins.act (h.sound.plan_eq_ok h.valid) hdistinct hdistinct' hmatch hact hact' hgranted
    hgranted' with ⟨hanswer, htwins⟩
  have hsound := h.sound.step h.valid hascending (step_of_act hact)
  have hsound' := h.sound_other.step h.valid_other hascending' (step_of_act hact')
  exact ⟨hanswer, htwins, hsound, hsound', h.valid, h.valid_other⟩

/-- What is provided for one of two twins suffices for both. -/
theorem isGranted (h : Abreast config config' drawn drawn' pool other)
    (hmemory : memory.Provides config.objectSize config.regionBytes (2 * pool.blocks.size))
    (hmemory' : memory'.Provides config.objectSize config.regionBytes (2 * pool.blocks.size))
    {action action' : Action} {answer answer' : Answer}
    (hact : (pool.act memory action).Gives more (answer, after))
    (hact' : (other.act memory' action').Gives more' (answer', after')) :
    answer.IsGranted ∧ answer'.IsGranted := by
  have hplan := h.sound.plan_eq_ok h.valid
  rw [← h.sound.objectSize_eq] at hmemory hmemory'
  refine ⟨isGranted_of_provides hplan hmemory hact, ?_⟩
  rw [h.twins.objectSize_eq, h.twins.blockBytes_eq] at hplan
  rw [h.twins.objectSize_eq, h.twins.size_eq] at hmemory'
  exact isGranted_of_provides hplan hmemory' hact'

/-- Twins that are asked the same at every step answer the same at every step, if both get the
memory they ask for. -/
theorem trace (h : Abreast config config' drawn drawn' pool other)
    (hascending : Ascending (drawn ++ more)) (hascending' : Ascending (drawn' ++ more'))
    {actions actions' : List Action} {moments moments' : List (Answer × Pool)}
    (hrun : (pool.trace memory actions).Gives more moments)
    (hrun' : (other.trace memory' actions').Gives more' moments')
    (hrequests : RequestsMatch pool other actions actions' moments moments')
    (hgranted : Granted moments) (hgranted' : Granted moments') :
    AnswersMatch moments moments' := by
  induction actions generalizing memory memory' pool other drawn drawn' more more' actions' moments
    moments' with
  | nil =>
      cases actions' with
      | nil =>
          rcases hrun with ⟨-, rfl⟩
          rcases hrun' with ⟨-, rfl⟩
          exact List.Forall₂.nil
      | cons action' actions' => cases hrequests
  | cons action actions ih =>
      cases actions' with
      | nil => cases hrequests
      | cons action' actions' =>
          rcases gives_trace_cons_iff.1 hrun with
            ⟨own, rest, answer, after, later, rfl, hact, hlater, rfl⟩
          rcases gives_trace_cons_iff.1 hrun' with
            ⟨own', rest', answer', after', later', rfl, hact', hlater', rfl⟩
          rcases hrequests with ⟨hfirst, hothers⟩
          rcases List.forall_mem_cons.1 hgranted with ⟨hnow, hthen⟩
          rcases List.forall_mem_cons.1 hgranted' with ⟨hnow', hthen'⟩
          rw [← List.append_assoc] at hascending hascending'
          rcases h.act hascending.left hascending'.left hfirst hact hact' hnow hnow' with
            ⟨hanswer, hafter⟩
          exact List.Forall₂.cons ⟨hanswer, hafter.twins.size_eq⟩
            (ih hafter hascending hascending' hlater hlater' hothers hthen hthen')

/-- Twins that are asked the same grow at the same steps, so that what is provided for the blocks of
one suffices for both. -/
theorem granted (h : Abreast config config' drawn drawn' pool other)
    (hascending : Ascending (drawn ++ more)) (hascending' : Ascending (drawn' ++ more'))
    (hmemory : memory.Provides config.objectSize config.regionBytes
      (2 * (pool.blocks.size + more.length)))
    (hmemory' : memory'.Provides config.objectSize config.regionBytes
      (2 * (pool.blocks.size + more.length)))
    {actions actions' : List Action} {moments moments' : List (Answer × Pool)}
    (hrun : (pool.trace memory actions).Gives more moments)
    (hrun' : (other.trace memory' actions').Gives more' moments')
    (hrequests : RequestsMatch pool other actions actions' moments moments') :
    Granted moments ∧ Granted moments' := by
  induction actions generalizing memory memory' pool other drawn drawn' more more' actions' moments
    moments' with
  | nil =>
      cases actions' with
      | nil =>
          rcases hrun with ⟨-, rfl⟩
          rcases hrun' with ⟨-, rfl⟩
          exact ⟨List.forall_mem_nil _, List.forall_mem_nil _⟩
      | cons action' actions' => cases hrequests
  | cons action actions ih =>
      cases actions' with
      | nil => cases hrequests
      | cons action' actions' =>
          rcases gives_trace_cons_iff.1 hrun with
            ⟨own, rest, answer, after, later, rfl, hact, hlater, rfl⟩
          rcases gives_trace_cons_iff.1 hrun' with
            ⟨own', rest', answer', after', later', rfl, hact', hlater', rfl⟩
          rcases hrequests with ⟨hfirst, hothers⟩
          rw [← List.append_assoc] at hascending hascending'
          rcases h.isGranted ((hmemory.mono (by omega)).part Memory.Part.all.first)
            ((hmemory'.mono (by omega)).part Memory.Part.all.first) hact hact' with ⟨hnow, hnow'⟩
          rcases h.act hascending.left hascending'.left hfirst hact hact' hnow hnow' with
            ⟨-, hafter⟩
          -- A step adds at most the block whose identity it draws.
          have hcount : 2 * (after.blocks.size + rest.length) ≤
              2 * (pool.blocks.size + (own ++ rest).length) := by
            have hsize := (step_of_act hact).size_le
            rw [List.length_append]
            omega
          rcases ih hafter hascending hascending' ((hmemory.mono hcount).part Memory.Part.all.rest)
            ((hmemory'.mono hcount).part Memory.Part.all.rest) hlater hlater' hothers with
            ⟨hthen, hthen'⟩
          exact ⟨List.forall_mem_cons.2 ⟨hnow, hthen⟩, List.forall_mem_cons.2 ⟨hnow', hthen'⟩⟩

end Abreast

/-! ## The main result -/

/-- What a pool still has when it is reclaimed: its blocks and what they hold, its array of
references, and its memory. -/
structure KeptByReclaim (pool reclaimed : Pool) : Prop where
  blockCount_eq : reclaimed.blockCount = pool.blockCount
  maxBlocks_eq : reclaimed.maxBlocks = pool.maxBlocks
  footprint_eq : reclaimed.footprint = pool.footprint
  contents_eq : reclaimed.blocks.map Block.contents = pool.blocks.map Block.contents
  bytes_eq : ∀ address, reclaimed.bytes? address = pool.bytes? address

/-- Reclaiming keeps the total of every quantity that it keeps in each block. -/
theorem total_reclaim (pool : Pool) {quantity : Block → Nat}
    (hkept : ∀ block : Block, quantity block.reclaim = quantity block) :
    pool.reclaim.total quantity = pool.total quantity := by
  rw [total, total, reclaim, ← Array.foldr_toList, ← Array.foldr_toList, Array.toList_map,
    List.foldr_map]
  simp only [hkept]

theorem keptByReclaim (pool : Pool) : KeptByReclaim pool pool.reclaim where
  blockCount_eq := Array.size_map
  maxBlocks_eq := rfl
  footprint_eq := by
    have hsize : pool.reclaim.blocks.size = pool.blocks.size := Array.size_map
    rw [footprint, footprint, pool.total_reclaim fun _ => rfl, hsize]
    rfl
  contents_eq := by
    have hcontents : ∀ block : Block, block.reclaim.contents = block.contents := fun _ => rfl
    simp [reclaim, hcontents]
  bytes_eq := bytes?_reclaim pool

/-- The configuration of a new pool of the same sizes that has as many blocks. -/
def renewal (pool : Pool) : Config where
  objectSize := pool.objectSize
  initialBlocks := pool.blockCount
  blockBytes := pool.blockBytes

theorem Sound.regionBytes_renewal (h : Sound config drawn pool) :
    pool.renewal.regionBytes = config.regionBytes := by
  simp [Config.regionBytes, Config.effectiveBlockBytes, renewal, h.blockBytes_eq, h.objectSize_eq]

/-- A reclaimed pool and a new one of as many blocks are twins. -/
theorem Sound.twins_reclaim (h : Sound config drawn pool)
    (hcreate : (create memory pool.renewal).Gives drawn' (.ok other)) :
    Twins pool.reclaim other := by
  have hother := Sound.of_create hcreate
  rcases eq_ofBlocks_of_create hcreate with ⟨-, hlength, hpool⟩
  have hsize : pool.reclaim.blocks.size = other.blocks.size := by
    simp [hpool, ofBlocks, Pool.reclaim, hlength, renewal, blockCount]
  refine ⟨hother.objectSize_eq.symm, ?_, ?_, hsize, ?_⟩
  · rw [hother.blockBytes_eq]
    simp [Config.effectiveBlockBytes, renewal, Pool.reclaim, h.blockBytes_eq, h.objectSize_eq]
  · rw [hpool]
    rfl
  · intro index first second hfirst hsecond
    rw [Pool.reclaim, Array.getElem?_map] at hfirst
    rcases Option.map_eq_some_iff.1 hfirst with ⟨block, hblock, rfl⟩
    rcases exists_fresh_of_create hcreate (Array.mem_of_getElem? hsecond) with ⟨id, rfl⟩
    have hsized := h.sized block (Array.mem_of_getElem? hblock)
    refine ⟨hsized.1.trans h.objectSize_eq.symm, ?_, rfl, rfl⟩
    exact hsized.2.trans h.regionBytes_renewal.symm

/-- However a pool was used, once it is reclaimed it cannot be told from a new pool of as many
blocks.  The two answer the same at every step, whatever the system answers each of them, up to the
first request that it refuses to one of them; and it refuses none if it provides for as many blocks
and references as the pool comes to have.  Reclaiming keeps the blocks of a pool, what they hold,
and its memory. -/
theorem reclaim_forgets {actions actions' : List Action} {moments moments' : List (Answer × Pool)}
    (h : Reached past config drawn events pool)
    (hcreate : (create birth pool.renewal).Gives drawn' (.ok other))
    (hascending : Ascending (drawn ++ more)) (hascending' : Ascending (drawn' ++ more'))
    (hrun : (pool.reclaim.trace memory actions).Gives more moments)
    (hrun' : (other.trace memory' actions').Gives more' moments')
    (hrequests : RequestsMatch pool.reclaim other actions actions' moments moments') :
    KeptByReclaim pool pool.reclaim ∧
      (Granted moments → Granted moments' → AnswersMatch moments moments') ∧
      (memory.Provides pool.objectSize pool.renewal.regionBytes
          (2 * (pool.blockCount + more.length)) →
        memory'.Provides pool.objectSize pool.renewal.regionBytes
          (2 * (pool.blockCount + more.length)) →
        AnswersMatch moments moments') := by
  have hsound := h.sound
  have habreast : Abreast config pool.renewal drawn drawn' pool.reclaim other :=
    ⟨hsound.twins_reclaim hcreate, hsound.reclaim, Sound.of_create hcreate, h.valid,
      (eq_ofBlocks_of_create hcreate).1⟩
  have hmatch := habreast.trace hascending hascending' hrun hrun' hrequests
  refine ⟨keptByReclaim pool, hmatch, ?_⟩
  intro hmemory hmemory'
  have hcount : pool.reclaim.blocks.size = pool.blockCount := (keptByReclaim pool).blockCount_eq
  rw [hsound.regionBytes_renewal, hsound.objectSize_eq, ← hcount] at hmemory hmemory'
  rcases habreast.granted hascending hascending' hmemory hmemory' hrun hrun' hrequests with
    ⟨hgranted, hgranted'⟩
  exact hmatch hgranted hgranted'

/-! ## The careless history forgotten -/

instance decidableRequestsMatch (pool other : Pool) (actions actions' : List Action)
    (moments moments' : List (Answer × Pool)) :
    Decidable (RequestsMatch pool other actions actions' moments moments') :=
  match actions, actions', moments, moments' with
  | _ :: actions, _ :: actions', (_, after) :: moments, (_, after') :: moments' =>
    have := decidableRequestsMatch after after' actions actions' moments moments'
    inferInstanceAs (Decidable (_ ∧ _))
  | [], [], _, _ => isTrue trivial
  | [], _ :: _, _, _ => isFalse id
  | _ :: _, [], _, _ => isFalse id
  | _ :: _, _ :: _, [], _ => isFalse id
  | _ :: _, _ :: _, _ :: _, [] => isFalse id

/-- What may be done with a pool of one block, to which a second block is added on the way. -/
def clientActions (first second : BlockId) : List Action :=
  [.allocate, .allocate, .contains ⟨first, 8⟩, .allocate, .free .thorough ⟨first, 8⟩,
    .free .thorough ⟨first, 8⟩, .free .quick ⟨⟨9⟩, 0⟩, .allocate, .blockIndex ⟨second, 0⟩, .reclaim,
    .free .quick ⟨first, 3⟩, .allocate]

/-- What a pool answers to these actions if `second` is the next identity to be drawn. -/
def clientMoments (pool : Pool) (first second : BlockId) : List (Answer × Pool) :=
  ((pool.trace .ample (clientActions first second)).runFrom second.number).1

/-- A new pool of one block, built after the careless history. -/
def renewedPool : Pool :=
  ofBlocks misusedPool.renewal #[.fresh ⟨2⟩ 8 16]

theorem gives_clientMoments_misusedPool :
    (misusedPool.reclaim.trace .ample (clientActions ⟨1⟩ ⟨3⟩)).Gives [⟨3⟩]
      (clientMoments misusedPool.reclaim ⟨1⟩ ⟨3⟩) := by
  have hnext : ((misusedPool.reclaim.trace .ample (clientActions ⟨1⟩ ⟨3⟩)).runFrom 3).2 = 4 := by
    decide +kernel
  have hrun : (misusedPool.reclaim.trace .ample (clientActions ⟨1⟩ ⟨3⟩)).runFrom 3 =
      (clientMoments misusedPool.reclaim ⟨1⟩ ⟨3⟩, 4) :=
    Prod.ext rfl hnext
  exact gives_of_runFrom hrun

theorem gives_clientMoments_renewedPool :
    (renewedPool.trace .ample (clientActions ⟨2⟩ ⟨4⟩)).Gives [⟨4⟩]
      (clientMoments renewedPool ⟨2⟩ ⟨4⟩) := by
  have hnext : ((renewedPool.trace .ample (clientActions ⟨2⟩ ⟨4⟩)).runFrom 4).2 = 5 := by
    decide +kernel
  have hrun : (renewedPool.trace .ample (clientActions ⟨2⟩ ⟨4⟩)).runFrom 4 =
      (clientMoments renewedPool ⟨2⟩ ⟨4⟩, 5) :=
    Prod.ext rfl hnext
  exact gives_of_runFrom hrun

/-- The pool that was used carelessly cannot be told from a new one once it is reclaimed. -/
theorem reclaim_forgets_misusedPool :
    Reached .ample ⟨8, 1, 16⟩ [⟨1⟩] misuseEvents misusedPool ∧
      (create .ample misusedPool.renewal).Gives [⟨2⟩] (.ok renewedPool) ∧
      Memory.ample.Provides misusedPool.objectSize misusedPool.renewal.regionBytes
        (2 * (misusedPool.blockCount + [(⟨3⟩ : BlockId)].length)) ∧
      RequestsMatch misusedPool.reclaim renewedPool (clientActions ⟨1⟩ ⟨3⟩) (clientActions ⟨2⟩ ⟨4⟩)
        (clientMoments misusedPool.reclaim ⟨1⟩ ⟨3⟩) (clientMoments renewedPool ⟨2⟩ ⟨4⟩) ∧
      KeptByReclaim misusedPool misusedPool.reclaim ∧
      AnswersMatch (clientMoments misusedPool.reclaim ⟨1⟩ ⟨3⟩)
        (clientMoments renewedPool ⟨2⟩ ⟨4⟩) := by
  have hcreate : (create .ample misusedPool.renewal).Gives [⟨2⟩] (.ok renewedPool) :=
    gives_runFrom (create .ample misusedPool.renewal) 2
  have hascending : Ascending ([⟨1⟩] ++ [⟨3⟩]) := by decide
  have hascending' : Ascending ([⟨2⟩] ++ [⟨4⟩]) := by decide
  have hmemory : Memory.ample.Provides misusedPool.objectSize misusedPool.renewal.regionBytes
      (2 * (misusedPool.blockCount + [(⟨3⟩ : BlockId)].length)) :=
    .of_ample (by decide +kernel) (by decide +kernel) (by decide +kernel)
  have hrequests : RequestsMatch misusedPool.reclaim renewedPool (clientActions ⟨1⟩ ⟨3⟩)
      (clientActions ⟨2⟩ ⟨4⟩) (clientMoments misusedPool.reclaim ⟨1⟩ ⟨3⟩)
      (clientMoments renewedPool ⟨2⟩ ⟨4⟩) := by
    decide +kernel
  have hforgets := reclaim_forgets reached_misusedPool hcreate hascending hascending'
    gives_clientMoments_misusedPool gives_clientMoments_renewedPool hrequests
  exact ⟨reached_misusedPool, hcreate, hmemory, hrequests, hforgets.1, hforgets.2.2 hmemory hmemory⟩

end Pool

end SlotPool
