import SlotPool.Pool.Stats
import SlotPool.Proofs.Pool.Integrity
import SlotPool.Proofs.Pool.Twins

/-!
# Pools but for the identities of their blocks

Which identities the blocks of a pool get depends on who else draws from the supply.  Everything
else about a pool does not: with the identities taken away, building a pool and asking it for slots
come to the same whatever was drawn, and taking back and writing come to the same if they are asked
for by places.

Main definitions:

- `Block.unnamed` and `Pool.unnamed`: a block and a pool with no identities of their own.
- `Block.Stats.unnamed` and `Pool.Stats.unnamed`: sizes without identities.

Main results:

- Theorem `Pool.unnamed_of_create`: new pools of one configuration are the same but for identities.
- Theorem `Pool.unnamed_of_allocate`: pools that are the same but for identities stay so when both
  are asked for a slot, and the slots are at the same place.
-/

namespace SlotPool

open Fresh

universe u

variable {memory : Memory} {drawn drawn' more more' : List BlockId}

/-- What a computation gives is decided once all identities are the same. -/
theorem Fresh.gives_unique_of_same {α : Type u} {x : Fresh α} {id : BlockId} {given given' : α}
    (h : x.Gives (drawn.map fun _ => id) given) (h' : x.Gives (drawn'.map fun _ => id) given') :
    given = given' := by
  induction x generalizing drawn drawn' with
  | done value => exact h.2.symm.trans h'.2
  | draw next ih =>
      cases drawn with
      | nil => contradiction
      | cons own rest =>
          cases drawn' with
          | nil => contradiction
          | cons own' rest' => exact ih id h h'

/-- The address but for the identity of its block. -/
def Address.unnamed (address : Address) : Address :=
  { address with block := default }

/-! ## Blocks -/

namespace Block

variable {block other : Block}

/-- The block but for its identity. -/
def unnamed (block : Block) : Block :=
  { block with id := default }

/-- Sizes of a block without its identity. -/
def Stats.unnamed (stats : Stats) : Stats :=
  { stats with id := default }

@[simp]
theorem stats_unnamed (block : Block) : block.unnamed.stats = block.stats.unnamed :=
  rfl

theorem unnamed_take (block : Block) : block.take.unnamed = block.unnamed.take := by
  unfold take unnamed
  split <;> rfl

/-- Blocks that are the same but for their identities have the same numbers. -/
theorem twins_of_unnamed (h : block.unnamed = other.unnamed) : block.Twins other := by
  simp only [unnamed, Block.mk.injEq, true_and] at h
  rcases h with ⟨hobject, hregion, -, hcursor, hstack, -⟩
  exact ⟨hobject, hregion, hcursor, hstack⟩

theorem Twins.slotRange?_eq (h : block.Twins other) (offset : UInt32) :
    block.slotRange? ⟨block.id, offset⟩ = other.slotRange? ⟨other.id, offset⟩ := by
  rw [slotRange?, slotRange?, slotStart?, slotStart?, h.contains_eq, h.objectSize_eq,
    h.regionBytes_eq]

/-- Building a block comes to the same under every identity. -/
theorem gives_create_unnamed {objectSize requested : Nat} {result : Except Fault Block}
    (h : (create memory objectSize requested).Gives drawn result) :
    (create memory objectSize requested).Gives (drawn.map fun _ => default)
      (result.map Block.unnamed) := by
  unfold create at h ⊢
  cases hplan : plan objectSize requested with
  | error cause =>
      simp only [hplan, gives_done_iff] at h ⊢
      rcases h with ⟨rfl, rfl⟩
      exact ⟨rfl, rfl⟩
  | ok regionBytes =>
      cases hreserve : reserve memory objectSize regionBytes with
      | error fault =>
          simp only [hplan, hreserve, gives_done_iff] at h ⊢
          rcases h with ⟨rfl, rfl⟩
          exact ⟨rfl, rfl⟩
      | ok _ =>
          simp only [hplan, hreserve, gives_draw_iff, gives_done_iff] at h ⊢
          rcases h with ⟨id, rest, rfl, rfl, rfl⟩
          exact ⟨default, [], rfl, rfl, rfl⟩

end Block

/-! ## Pools -/

namespace Pool

variable {config : Config} {pool other after after' : Pool}

/-- The pool but for the identities of its blocks. -/
def unnamed (pool : Pool) : Pool :=
  { pool with blocks := pool.blocks.map Block.unnamed }

/-- Sizes of a pool without the identities of its blocks. -/
def Stats.unnamed (stats : Stats) : Stats :=
  { stats with blocks := stats.blocks.map Block.Stats.unnamed }

/-- No size depends on an identity. -/
theorem stats_unnamed (pool : Pool) : pool.unnamed.stats = pool.stats.unnamed := by
  have htotal : pool.unnamed.total Block.footprint = pool.total Block.footprint := by
    rw [total, unnamed, Array.foldr_map]
    rfl
  have hfootprint : pool.unnamed.footprint = pool.footprint := by
    rw [footprint, footprint, htotal, unnamed, Array.size_map]
  rw [stats, stats, hfootprint]
  simp [Stats.unnamed, blockCount, unnamed, Function.comp_def]

theorem unnamed_revise (pool : Pool) (index : Nat) {change : Block → Block}
    (hchange : ∀ block, (change block).unnamed = change block.unnamed) :
    (pool.revise index change).unnamed = pool.unnamed.revise index change := by
  have hblocks : (pool.blocks.modify index change).map Block.unnamed =
      (pool.blocks.map Block.unnamed).modify index change := by
    apply Array.ext_getElem?
    intro place
    rw [Array.getElem?_map, Array.getElem?_modify, Array.getElem?_modify, Array.getElem?_map]
    split
    · simp only [Option.map_map, Function.comp_def, hchange]
    · rfl
  rw [revise, unnamed, hblocks]
  rfl

theorem unnamed_takeAt (pool : Pool) (index : Nat) :
    (pool.takeAt index).unnamed = pool.unnamed.takeAt index := by
  have hrevise := unnamed_revise pool index Block.unnamed_take
  rw [takeAt, takeAt, ← hrevise]
  rfl

theorem unnamed_reclaim (pool : Pool) : pool.reclaim.unnamed = pool.unnamed.reclaim := by
  simp only [reclaim, unnamed, Array.map_map, Function.comp_def]
  rfl

/-- Pools that are the same but for identities have the same numbers. -/
theorem twins_of_unnamed (h : pool.unnamed = other.unnamed) : Twins pool other := by
  simp only [unnamed, Pool.mk.injEq] at h
  rcases h with ⟨hobject, hblock, hblocks, hcurrent, -⟩
  refine ⟨hobject, hblock, hcurrent, ?_, ?_⟩
  · simpa using congrArg Array.size hblocks
  · intro index first second hfirst hsecond
    have hat := congrArg (·[index]?) hblocks
    simp only [Array.getElem?_map, hfirst, hsecond, Option.map_some, Option.some.injEq] at hat
    exact Block.twins_of_unnamed hat

theorem Twins.getElem?_eq_none (h : Twins pool other) {index : Nat}
    (hnone : pool.blocks[index]? = none) : other.blocks[index]? = none := by
  rw [Array.getElem?_eq_none_iff] at hnone ⊢
  rw [← h.size_eq]
  exact hnone

theorem roomIndex?_unnamed (pool : Pool) : pool.unnamed.roomIndex? = pool.roomIndex? := by
  apply (twins_of_unnamed _).roomIndex?_eq
  simp only [unnamed, Array.map_map]
  rfl

/-! ## Building -/

theorem gives_createBlocks_unnamed {objectSize blockBytes count : Nat} {built : Array Block}
    {result : Except Fault (Array Block)}
    (h : (createBlocks memory objectSize blockBytes count built).Gives drawn result) :
    (createBlocks memory objectSize blockBytes count (built.map Block.unnamed)).Gives
      (drawn.map fun _ => default) (result.map (·.map Block.unnamed)) := by
  induction count generalizing memory built drawn with
  | zero =>
      rcases h with ⟨rfl, rfl⟩
      exact ⟨rfl, rfl⟩
  | succ count ih =>
      rcases gives_bind_iff.1 h with ⟨own, rest, block, rfl, hcreate, hrest⟩
      refine gives_bind_iff.2 ⟨_, _, _, List.map_append, Block.gives_create_unnamed hcreate, ?_⟩
      cases block with
      | error fault =>
          rcases hrest with ⟨rfl, rfl⟩
          exact ⟨rfl, rfl⟩
      | ok block =>
          have hbuilt := ih hrest
          rw [Array.map_push] at hbuilt
          exact hbuilt

/-- Building a pool comes to the same whatever identities are drawn. -/
theorem gives_create_unnamed {result : Except Fault Pool}
    (h : (create memory config).Gives drawn result) :
    (create memory config).Gives (drawn.map fun _ => default) (result.map unnamed) := by
  unfold create at h ⊢
  cases hvalid : config.validate with
  | error cause =>
      simp only [hvalid, gives_done_iff] at h ⊢
      rcases h with ⟨rfl, rfl⟩
      exact ⟨rfl, rfl⟩
  | ok _ =>
      cases hreserve : memory.first.reserve (config.initialBlocks * Memory.blockHeaderBytes) with
      | error fault =>
          simp only [hvalid, hreserve, gives_done_iff] at h ⊢
          rcases h with ⟨rfl, rfl⟩
          exact ⟨rfl, rfl⟩
      | ok _ =>
          simp only [hvalid, hreserve] at h ⊢
          rcases gives_bind_iff.1 h with ⟨own, rest, blocks, rfl, hblocks, hrest⟩
          have hunnamed := gives_createBlocks_unnamed hblocks
          rw [Array.map_empty] at hunnamed
          refine gives_bind_iff.2 ⟨_, _, _, List.map_append, hunnamed, ?_⟩
          cases blocks with
          | error fault =>
              rcases hrest with ⟨rfl, rfl⟩
              exact ⟨rfl, rfl⟩
          | ok blocks =>
              rcases hrest with ⟨rfl, rfl⟩
              exact ⟨rfl, rfl⟩

/-- New pools of one configuration are the same but for identities. -/
theorem unnamed_of_create {result result' : Except Fault Pool}
    (h : (create memory config).Gives drawn result)
    (h' : (create memory config).Gives drawn' result') :
    result.map unnamed = result'.map unnamed :=
  gives_unique_of_same (gives_create_unnamed h) (gives_create_unnamed h')

/-! ## Handing out -/

theorem reserveReference_unnamed (memory : Memory) (pool : Pool) :
    pool.unnamed.reserveReference memory = (pool.reserveReference memory).map unnamed := by
  simp only [reserveReference, unnamed, Array.size_map]
  split
  · cases memory.reserve (pool.maxBlocks * 2 * Memory.blockHeaderBytes) <;> rfl
  · rfl

theorem gives_grow_unnamed {result : Except Fault Unit}
    (h : (pool.grow memory).Gives drawn (result, after)) :
    (pool.unnamed.grow memory).Gives (drawn.map fun _ => default) (result, after.unnamed) := by
  unfold grow at h ⊢
  rw [reserveReference_unnamed]
  cases hreference : pool.reserveReference memory.first with
  | error fault =>
      simp only [hreference, gives_done_iff, Prod.mk.injEq] at h
      rcases h with ⟨rfl, rfl, rfl⟩
      exact ⟨rfl, rfl⟩
  | ok roomy =>
      simp only [hreference] at h
      rcases gives_bind_iff.1 h with ⟨own, rest, block, rfl, hcreate, hrest⟩
      refine gives_bind_iff.2 ⟨_, _, _, List.map_append, Block.gives_create_unnamed hcreate, ?_⟩
      cases block with
      | error fault =>
          simp only [gives_done_iff, Prod.mk.injEq] at hrest
          rcases hrest with ⟨rfl, rfl, rfl⟩
          exact ⟨rfl, rfl⟩
      | ok block =>
          simp only [gives_done_iff, Prod.mk.injEq] at hrest
          rcases hrest with ⟨rfl, rfl, rfl⟩
          simp [Except.map, unnamed]

/-- Taking from a block of a given index comes to the same under every identity. -/
theorem takeFrom_unnamed (pool : Pool) (index : Nat) :
    pool.unnamed.takeFrom index =
      ((pool.takeFrom index).1.map Address.unnamed, (pool.takeFrom index).2.unnamed) := by
  have hunnamed : pool.unnamed.blocks[index]? = pool.blocks[index]?.map Block.unnamed :=
    Array.getElem?_map
  cases hblock : pool.blocks[index]? with
  | none =>
      rw [hblock, Option.map_none] at hunnamed
      simp only [takeFrom, hblock, hunnamed, Option.bind_none]
      rfl
  | some block =>
      rw [hblock, Option.map_some] at hunnamed
      cases hnext : block.nextOffset? with
      | none =>
          have hnext' : block.unnamed.nextOffset? = none := hnext
          simp only [takeFrom, hblock, hunnamed, Option.bind_some, Block.nextAddress?, hnext,
            hnext', Option.map_none]
          rfl
      | some offset =>
          have hnext' : block.unnamed.nextOffset? = some offset := hnext
          rw [takeFrom_eq hblock hnext, takeFrom_eq hunnamed hnext', ← unnamed_takeAt]
          rfl

theorem gives_allocate_unnamed {result : Except Fault Address}
    (h : (pool.allocate memory).Gives drawn (result, after)) :
    (pool.unnamed.allocate memory).Gives (drawn.map fun _ => default)
      (result.map Address.unnamed, after.unnamed) := by
  unfold allocate at h ⊢
  rw [roomIndex?_unnamed]
  cases hindex : pool.roomIndex? with
  | some index =>
      simp only [hindex, gives_done_iff] at h
      rcases h with ⟨rfl, htaken⟩
      refine ⟨rfl, ?_⟩
      rw [takeFrom_unnamed, htaken]
  | none =>
      simp only [hindex] at h
      rcases gives_bind_iff.1 h with ⟨own, rest, ⟨grew, grown⟩, rfl, hgrow, hrest⟩
      refine gives_bind_iff.2 ⟨_, _, _, List.map_append, gives_grow_unnamed hgrow, ?_⟩
      cases grew with
      | error fault =>
          simp only [gives_done_iff, Prod.mk.injEq] at hrest
          rcases hrest with ⟨rfl, rfl, rfl⟩
          exact ⟨rfl, rfl⟩
      | ok _ =>
          simp only [gives_done_iff] at hrest
          rcases hrest with ⟨rfl, htaken⟩
          have hsize : grown.unnamed.blocks.size = grown.blocks.size := Array.size_map
          refine ⟨rfl, ?_⟩
          rw [hsize, takeFrom_unnamed, htaken]

/-- Pools that are the same but for identities stay so when both are asked for a slot, and both give
a slot at the same offset or none. -/
theorem unnamed_of_allocate (h : pool.unnamed = other.unnamed)
    {result result' : Except Fault Address}
    (hallocate : (pool.allocate memory).Gives more (result, after))
    (hallocate' : (other.allocate memory).Gives more' (result', after')) :
    result.map Address.unnamed = result'.map Address.unnamed ∧ after.unnamed = after'.unnamed := by
  have hunnamed := gives_allocate_unnamed hallocate
  rw [h] at hunnamed
  exact Prod.mk.inj (gives_unique_of_same hunnamed (gives_allocate_unnamed hallocate'))

end Pool

end SlotPool
