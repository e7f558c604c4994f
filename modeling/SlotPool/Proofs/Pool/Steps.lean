import SlotPool.Pool.History
import SlotPool.Proofs.Block.Balance
import SlotPool.Proofs.Draws

/-!
# What one operation of a pool can do

Each operation of a pool is described once: what it may answer, which identities it draws, and
which blocks it changes in which way.  Every later argument about histories goes through the
cases listed here and does not open the operations again.

Main definitions:

- `Pool.ids`: the identities of the blocks in the order of their creation.
- `Pool.revise`, `Pool.takeAt` and `Pool.grown`: a pool with one block changed, with a slot of
  one block handed out, and with one more block.

Main results:

- Theorem `Pool.eq_ofBlocks_of_create`: what a pool is built of.
- Theorems `Pool.allocate_cases`, `Pool.free_cases` and `Pool.write_cases`: all that these
  operations can do.
- Theorem `Pool.step_of_act`: every action takes one of the steps listed here.
-/

namespace SlotPool

open Fresh

variable {memory : Memory} {config : Config} {drawn : List BlockId}

/-! ## Creating a block -/

/-- The region of a valid configuration is what a block of that configuration gets. -/
theorem Config.regionFor_eq (hvalid : config.validate = .ok ()) :
    Block.regionFor config.objectSize config.effectiveBlockBytes = config.regionBytes := by
  have hpos := (validate_eq_ok_iff.1 hvalid).1
  have hlarge : config.objectSize ≤ config.effectiveBlockBytes := Nat.le_max_right ..
  have hdvd : config.objectSize ∣ config.regionBytes := Nat.dvd_sub_mod _
  have hmod := Nat.mod_lt config.effectiveBlockBytes hpos
  have hregion : 0 < config.regionBytes := by
    unfold regionBytes
    omega
  exact Nat.max_eq_right (Nat.le_of_dvd hregion hdvd)

theorem Config.plan_eq_ok (hvalid : config.validate = .ok ()) :
    Block.plan config.objectSize config.effectiveBlockBytes = .ok config.regionBytes := by
  have hparts := validate_eq_ok_iff.1 hvalid
  exact Block.plan_eq_ok_iff.2 ⟨hparts.1, (regionFor_eq hvalid).symm, hparts.2.2⟩

/-- A block is built with one identity, or it is not built and no identity is drawn. -/
theorem Block.create_cases {objectSize requested : Nat} {result : Except Fault Block}
    (h : (create memory objectSize requested).Gives drawn result) :
    (∃ fault, drawn = [] ∧ result = .error fault) ∨
    (∃ id regionBytes, drawn = [id] ∧ plan objectSize requested = .ok regionBytes ∧
      result = .ok (fresh id objectSize regionBytes)) := by
  unfold create at h
  cases hplan : plan objectSize requested with
  | error cause =>
      simp only [hplan, gives_done_iff] at h
      exact Or.inl ⟨_, h.1, h.2.symm⟩
  | ok regionBytes =>
      cases hreserve : reserve memory objectSize regionBytes with
      | error fault =>
          simp only [hplan, hreserve, gives_done_iff] at h
          exact Or.inl ⟨_, h.1, h.2.symm⟩
      | ok granted =>
          simp only [hplan, hreserve, gives_draw_iff, gives_done_iff] at h
          rcases h with ⟨id, rest, rfl, rfl, rfl⟩
          exact Or.inr ⟨id, regionBytes, rfl, rfl, rfl⟩

namespace Pool

variable {pool after : Pool} {address : Address}

/-! ## Blocks and their identities -/

/-- Identities of the blocks in the order of their creation. -/
def ids (pool : Pool) : List BlockId :=
  pool.blocks.toList.map Block.id

/-- The pool with one of its blocks changed. -/
def revise (pool : Pool) (index : Nat) (change : Block → Block) : Pool :=
  { pool with blocks := pool.blocks.modify index change }

/-- The pool after a slot of one of its blocks was handed out. -/
def takeAt (pool : Pool) (index : Nat) : Pool :=
  { pool.revise index Block.take with current := index }

/-- The capacity of the reference array once one more block is referred to. -/
def nextMaxBlocks (pool : Pool) : Nat :=
  if pool.blocks.size = pool.maxBlocks then pool.maxBlocks * 2 else pool.maxBlocks

/-- The pool with one more block, of a given identity and a given region. -/
def grown (pool : Pool) (id : BlockId) (regionBytes : Nat) : Pool :=
  { pool with
    blocks := pool.blocks.push (.fresh id pool.objectSize regionBytes)
    maxBlocks := pool.nextMaxBlocks }

theorem mem_ids_iff {id : BlockId} : id ∈ pool.ids ↔ ∃ block ∈ pool.blocks, block.id = id := by
  simp [ids]

theorem getElem?_ids {index : Nat} {block : Block} (hblock : pool.blocks[index]? = some block) :
    pool.ids[index]? = some block.id := by
  simp [ids, hblock]

@[simp]
theorem length_ids (pool : Pool) : pool.ids.length = pool.blocks.size := by
  simp [ids]

@[simp]
theorem ids_grown (pool : Pool) (id : BlockId) (regionBytes : Nat) :
    (pool.grown id regionBytes).ids = pool.ids ++ [id] := by
  simp [ids, grown, Block.fresh]

theorem ids_revise (pool : Pool) (index : Nat) {change : Block → Block}
    (hid : ∀ block, (change block).id = block.id) : (pool.revise index change).ids = pool.ids := by
  apply List.ext_getElem?
  intro other
  simp only [ids, revise, List.getElem?_map, Array.getElem?_toList, Array.getElem?_modify]
  split
  · simp [Option.map_map, Function.comp_def, hid]
  · rfl

/-- Only what a change does to the block of its index matters. -/
theorem revise_congr {index : Nat} {block : Block} {change other : Block → Block}
    (hblock : pool.blocks[index]? = some block) (heq : change block = other block) :
    pool.revise index change = pool.revise index other := by
  have hblocks : pool.blocks.modify index change = pool.blocks.modify index other := by
    apply Array.ext_getElem?
    intro place
    rw [Array.getElem?_modify, Array.getElem?_modify]
    by_cases hplace : index = place
    · simp [← hplace, hblock, heq]
    · simp [hplace]
  rw [revise, revise, hblocks]

@[simp]
theorem ids_takeAt (pool : Pool) (index : Nat) : (pool.takeAt index).ids = pool.ids :=
  ids_revise pool index Block.take_id

@[simp]
theorem ids_reclaim (pool : Pool) : pool.reclaim.ids = pool.ids := by
  simp [ids, reclaim, Function.comp_def]

theorem index_unique (hdistinct : pool.ids.Nodup) {i j : Nat} {first second : Block}
    (hi : pool.blocks[i]? = some first) (hj : pool.blocks[j]? = some second)
    (hid : first.id = second.id) : i = j := by
  have hi' : pool.ids[i]? = some first.id := getElem?_ids hi
  have hj' : pool.ids[j]? = some first.id := hid ▸ getElem?_ids hj
  exact (List.getElem?_inj (List.getElem?_eq_some_iff.1 hi').1 hdistinct).1 (hi'.trans hj'.symm)

/-- The blocks of a revised pool are the changed block and the other blocks, unchanged. -/
theorem mem_revise (hdistinct : pool.ids.Nodup) {index : Nat} {change : Block → Block}
    {target block : Block} (htarget : pool.blocks[index]? = some target)
    (h : block ∈ (pool.revise index change).blocks) :
    block = change target ∨ (block ∈ pool.blocks ∧ block.id ≠ target.id) := by
  rcases Array.mem_iff_getElem?.1 h with ⟨other, hother⟩
  rw [revise, Array.getElem?_modify] at hother
  split at hother
  · next heq =>
      rw [← heq, htarget] at hother
      exact Or.inl (Option.some.inj hother).symm
  · next hne =>
      refine Or.inr ⟨Array.mem_of_getElem? hother, fun hid => hne ?_⟩
      exact index_unique hdistinct htarget hother hid.symm

/-! ## Creating a pool -/

/-- Blocks that could all be built are fresh blocks of the identities drawn. -/
theorem createBlocks_eq {objectSize blockBytes regionBytes count : Nat} {built blocks : Array Block}
    (hplan : Block.plan objectSize blockBytes = .ok regionBytes)
    (h : (createBlocks memory objectSize blockBytes count built).Gives drawn (.ok blocks)) :
    drawn.length = count ∧
      blocks.toList = built.toList ++ drawn.map (Block.fresh · objectSize regionBytes) := by
  induction count generalizing memory built drawn with
  | zero =>
      rcases h with ⟨rfl, hblocks⟩
      simp [Except.ok.inj hblocks]
  | succ count ih =>
      rcases gives_bind_iff.1 h with ⟨own, rest, result, rfl, hcreate, hrest⟩
      rcases Block.create_cases hcreate with
        ⟨fault, rfl, rfl⟩ | ⟨id, bytes, rfl, hbytes, rfl⟩
      · simp at hrest
      · rw [hplan] at hbytes
        rcases Except.ok.inj hbytes with rfl
        rcases ih hrest with ⟨hlength, hblocks⟩
        simp [hlength, hblocks]

/-- A pool is built of fresh blocks of the identities drawn, as many as its configuration says. -/
theorem eq_ofBlocks_of_create (h : (create memory config).Gives drawn (.ok pool)) :
    config.validate = .ok () ∧ drawn.length = config.initialBlocks ∧
      pool = ofBlocks config
        (drawn.map (Block.fresh · config.objectSize config.regionBytes)).toArray := by
  unfold create at h
  cases hvalid : config.validate with
  | error cause => simp [hvalid] at h
  | ok _ =>
      cases hreserve : memory.first.reserve (config.initialBlocks * Memory.blockHeaderBytes) with
      | error fault => simp [hvalid, hreserve] at h
      | ok _ =>
          simp only [hvalid, hreserve] at h
          rcases gives_bind_iff.1 h with ⟨own, rest, result, rfl, hblocks, hrest⟩
          cases result with
          | error fault => simp at hrest
          | ok blocks =>
              rcases hrest with ⟨rfl, hpool⟩
              rcases createBlocks_eq (Config.plan_eq_ok hvalid) hblocks with ⟨hlength, heq⟩
              have hblocks' : blocks = (own.map
                  (Block.fresh · config.objectSize config.regionBytes)).toArray :=
                Array.ext' heq
              rw [List.append_nil]
              exact ⟨rfl, hlength, by rw [← Except.ok.inj hpool, hblocks']⟩

theorem exists_fresh_of_create (h : (create memory config).Gives drawn (.ok pool)) {block : Block}
    (hmem : block ∈ pool.blocks) :
    ∃ id, block = Block.fresh id config.objectSize config.regionBytes := by
  rcases eq_ofBlocks_of_create h with ⟨-, -, rfl⟩
  simp only [ofBlocks, List.mem_toArray, List.mem_map] at hmem
  rcases hmem with ⟨id, -, rfl⟩
  exact ⟨id, rfl⟩

/-! ## Growing -/

/-- Room for one more reference is made by doubling a full array. -/
theorem reserveReference_eq {roomy : Pool} (h : pool.reserveReference memory = .ok roomy) :
    roomy = { pool with maxBlocks := pool.nextMaxBlocks } := by
  unfold reserveReference at h
  unfold nextMaxBlocks
  split at h
  · next hfull =>
      rw [if_pos hfull]
      cases hreserve : memory.reserve (pool.maxBlocks * 2 * Memory.blockHeaderBytes) with
      | error fault => simp [hreserve] at h
      | ok _ =>
          rw [hreserve] at h
          exact (Except.ok.inj h).symm
  · next hspare =>
      rw [if_neg hspare]
      exact (Except.ok.inj h).symm

/-- A pool grows by one fresh block, or it does not and has at most got a larger array. -/
theorem grow_cases {result : Except Fault Unit}
    (h : (pool.grow memory).Gives drawn (result, after)) :
    (∃ fault, drawn = [] ∧ result = .error fault ∧
      (after = pool ∨ after = { pool with maxBlocks := pool.nextMaxBlocks })) ∨
    (∃ id regionBytes, drawn = [id] ∧
      Block.plan pool.objectSize pool.blockBytes = .ok regionBytes ∧ result = .ok () ∧
      after = pool.grown id regionBytes) := by
  unfold grow at h
  cases hreference : pool.reserveReference memory.first with
  | error fault =>
      simp only [hreference, gives_done_iff, Prod.mk.injEq] at h
      rcases h with ⟨rfl, rfl, rfl⟩
      exact Or.inl ⟨fault, rfl, rfl, Or.inl rfl⟩
  | ok roomy =>
      have hroomy := reserveReference_eq hreference
      simp only [hreference, gives_bind_iff] at h
      rcases h with ⟨own, rest, built, rfl, hcreate, hrest⟩
      rw [hroomy] at hcreate hrest
      rcases Block.create_cases hcreate with
        ⟨fault, rfl, rfl⟩ | ⟨id, regionBytes, rfl, hplan, rfl⟩
      · simp only [gives_done_iff, Prod.mk.injEq] at hrest
        rcases hrest with ⟨rfl, rfl, rfl⟩
        exact Or.inl ⟨fault, rfl, rfl, Or.inr rfl⟩
      · simp only [gives_done_iff, Prod.mk.injEq] at hrest
        rcases hrest with ⟨rfl, rfl, rfl⟩
        exact Or.inr ⟨id, regionBytes, rfl, hplan, rfl, rfl⟩

/-! ## Handing out -/

/-- The block chosen to serve the next slot exists and has room. -/
theorem hasRoom_of_roomIndex? {index : Nat} (h : pool.roomIndex? = some index) :
    ∃ block, pool.blocks[index]? = some block ∧ block.hasRoom = true := by
  unfold roomIndex? at h
  split at h
  · next hroom =>
      rcases Option.some.inj h with rfl
      exact (Option.any_eq_true _ _).1 hroom
  · have hfound := Array.of_findIdx?_eq_some h
    cases hblock : pool.blocks[index]? with
    | none => simp [hblock] at hfound
    | some block =>
        rw [hblock] at hfound
        exact ⟨block, rfl, hfound⟩

/-- No block is chosen only if none has room. -/
theorem not_hasRoom_of_roomIndex? (h : pool.roomIndex? = none) :
    ∀ block ∈ pool.blocks, ¬ block.hasRoom = true := by
  unfold roomIndex? at h
  split at h
  · contradiction
  · intro block hmem
    rw [Array.findIdx?_eq_none_iff.1 h block hmem]
    exact Bool.false_ne_true

theorem takeFrom_eq {index : Nat} {block : Block} {offset : UInt32}
    (hblock : pool.blocks[index]? = some block) (hnext : block.nextOffset? = some offset) :
    pool.takeFrom index = (.ok (block.addressAt offset), pool.takeAt index) := by
  simp only [takeFrom, hblock, Option.bind_some, Block.nextAddress?, hnext, Option.map_some,
    takeAt, revise]

theorem nextOffset?_fresh (id : BlockId) {objectSize requested regionBytes : Nat}
    (hplan : Block.plan objectSize requested = .ok regionBytes) :
    (Block.fresh id objectSize regionBytes).nextOffset? = some 0 := by
  have hwell := Block.wellFormed_of_plan id hplan
  exact if_pos (Nat.lt_of_lt_of_le hwell.objectSize_pos hwell.objectSize_le)

/-- A slot is handed out of the block chosen, or of a new block if none has room; or nothing
happens because the pool cannot grow. -/
theorem allocate_cases {result : Except Fault Address}
    (h : (pool.allocate memory).Gives drawn (result, after)) :
    (∃ index block offset, drawn = [] ∧ pool.roomIndex? = some index ∧
      pool.blocks[index]? = some block ∧ block.nextOffset? = some offset ∧
      result = .ok (block.addressAt offset) ∧ after = pool.takeAt index) ∨
    (∃ fault, drawn = [] ∧ pool.roomIndex? = none ∧ result = .error fault ∧
      (after = pool ∨ after = { pool with maxBlocks := pool.nextMaxBlocks })) ∨
    (∃ id regionBytes, drawn = [id] ∧ pool.roomIndex? = none ∧
      Block.plan pool.objectSize pool.blockBytes = .ok regionBytes ∧
      result = .ok ⟨id, 0⟩ ∧ after = (pool.grown id regionBytes).takeAt pool.blocks.size) := by
  unfold allocate at h
  cases hindex : pool.roomIndex? with
  | some index =>
      rcases hasRoom_of_roomIndex? hindex with ⟨block, hblock, hroom⟩
      rcases Block.hasRoom_iff_exists.1 hroom with ⟨offset, hnext⟩
      simp only [hindex, takeFrom_eq hblock hnext, gives_done_iff, Prod.mk.injEq] at h
      rcases h with ⟨rfl, rfl, rfl⟩
      exact Or.inl ⟨index, block, offset, rfl, rfl, hblock, hnext, rfl, rfl⟩
  | none =>
      simp only [hindex, gives_bind_iff] at h
      rcases h with ⟨own, rest, ⟨outcome, middle⟩, rfl, hgrow, hrest⟩
      rcases grow_cases hgrow with
        ⟨fault, rfl, rfl, hmiddle⟩ | ⟨id, regionBytes, rfl, hplan, rfl, rfl⟩
      · simp only [gives_done_iff, Prod.mk.injEq] at hrest
        rcases hrest with ⟨rfl, rfl, rfl⟩
        exact Or.inr (Or.inl ⟨fault, rfl, rfl, rfl, hmiddle⟩)
      · have hlast : (pool.grown id regionBytes).blocks[pool.blocks.size]? =
            some (.fresh id pool.objectSize regionBytes) := by
          simp [grown]
        have hsize : (pool.grown id regionBytes).blocks.size - 1 = pool.blocks.size := by
          simp [grown]
        simp only [hsize, takeFrom_eq hlast (nextOffset?_fresh id hplan), gives_done_iff,
          Prod.mk.injEq] at hrest
        rcases hrest with ⟨rfl, rfl, rfl⟩
        exact Or.inr (Or.inr ⟨id, regionBytes, rfl, rfl, hplan, rfl, rfl⟩)

/-! ## Resolving addresses -/

/-- The owner of an address is the block of the index that the address resolves to. -/
theorem owner?_eq_bind (pool : Pool) (address : Address) :
    pool.owner? address = (pool.blockIndex? address).bind (pool.blocks[·]?) :=
  Array.find?_eq_bind_findIdx?_getElem?

/-- An address that resolves to an index is contained in the block of that index. -/
theorem contains_of_blockIndex? {index : Nat} (h : pool.blockIndex? address = some index) :
    ∃ block, pool.blocks[index]? = some block ∧ block.contains address = true := by
  have hfound := Array.of_findIdx?_eq_some h
  cases hblock : pool.blocks[index]? with
  | none => simp [hblock] at hfound
  | some block =>
      rw [hblock] at hfound
      exact ⟨block, rfl, hfound⟩

/-- An address of a block resolves to that block if the block contains it, and else to none. -/
theorem blockIndex?_eq (hdistinct : pool.ids.Nodup) {index : Nat} {block : Block}
    (hblock : pool.blocks[index]? = some block) (hid : address.block = block.id) :
    pool.blockIndex? address = if block.contains address then some index else none := by
  cases hfound : pool.blockIndex? address with
  | none =>
      have hnone := Array.findIdx?_eq_none_iff.1 hfound block
        (Array.mem_of_getElem? hblock)
      simp [hnone]
  | some other =>
      rcases contains_of_blockIndex? hfound with ⟨owner, howner, hcontains⟩
      have howned : owner.id = block.id := (Block.contains_iff.1 hcontains).1.symm.trans hid
      rcases index_unique hdistinct howner hblock howned with rfl
      rcases Option.some.inj (howner.symm.trans hblock) with rfl
      rw [if_pos hcontains]

/-- An address whose block is not one of the pool does not resolve. -/
theorem blockIndex?_eq_none (hforeign : address.block ∉ pool.ids) :
    pool.blockIndex? address = none := by
  cases hfound : pool.blockIndex? address with
  | none => rfl
  | some index =>
      rcases contains_of_blockIndex? hfound with ⟨block, hblock, hcontains⟩
      exact absurd (mem_ids_iff.2 ⟨block, Array.mem_of_getElem? hblock,
        (Block.contains_iff.1 hcontains).1.symm⟩) hforeign

theorem owner?_foreign (hforeign : address.block ∉ pool.ids) : pool.owner? address = none := by
  rw [owner?_eq_bind, blockIndex?_eq_none hforeign, Option.bind_none]

theorem contains_foreign (hforeign : address.block ∉ pool.ids) :
    pool.contains address = false := by
  rw [Bool.eq_false_iff]
  intro hany
  rcases Array.any_eq_true'.1 hany with ⟨block, hmem, hcontains⟩
  exact hforeign (mem_ids_iff.2 ⟨block, hmem, (Block.contains_iff.1 hcontains).1.symm⟩)

theorem bytes?_foreign (hforeign : address.block ∉ pool.ids) : pool.bytes? address = none := by
  rw [bytes?, owner?_foreign hforeign, Option.bind_none]

/-- An address of a block of the pool is refused for the reasons of that block. -/
theorem refusal?_eq (hdistinct : pool.ids.Nodup) {index : Nat} {block : Block}
    (hblock : pool.blocks[index]? = some block) (hid : address.block = block.id)
    (check : FreeCheck) : pool.refusal? check address = block.refusal? check address := by
  rw [refusal?, owner?_eq_bind, blockIndex?_eq hdistinct hblock hid]
  by_cases hcontains : block.contains address = true
  · rw [if_pos hcontains, Option.bind_some, hblock]
  · rw [if_neg hcontains, Option.bind_none]
    cases check <;> simp [Block.refusal?, hcontains]

theorem refusal?_foreign (hforeign : address.block ∉ pool.ids) (check : FreeCheck) :
    pool.refusal? check address = some (.invalidFree address) := by
  rw [refusal?, owner?_foreign hforeign]

/-! ## Taking back and writing -/

/-- A free is refused and changes nothing, or it puts the offset on the free stack of the block
that contains the address. -/
theorem free_cases {check : FreeCheck} {result : Except Fault Unit}
    (h : pool.free check address = (result, after)) :
    (∃ fault, pool.refusal? check address = some fault ∧ result = .error fault ∧ after = pool) ∨
    (∃ index block, pool.blocks[index]? = some block ∧ block.contains address = true ∧
      block.refusal? check address = none ∧ result = .ok () ∧
      after = pool.revise index (·.pushFree address.offset)) := by
  unfold free at h
  cases hrefusal : pool.refusal? check address with
  | some fault =>
      simp only [hrefusal, Prod.mk.injEq] at h
      exact Or.inl ⟨fault, rfl, h.1.symm, h.2.symm⟩
  | none =>
      simp only [hrefusal, Prod.mk.injEq] at h
      rcases h with ⟨rfl, rfl⟩
      rw [refusal?, owner?_eq_bind] at hrefusal
      cases hindex : pool.blockIndex? address with
      | none => simp [hindex] at hrefusal
      | some index =>
          rcases contains_of_blockIndex? hindex with ⟨block, hblock, hcontains⟩
          simp only [hindex, Option.bind_some, hblock] at hrefusal
          refine Or.inr ⟨index, block, hblock, hcontains, hrefusal, rfl, ?_⟩
          simp only [pushFree, hindex, revise]

/-- An address that its block lets pass is taken back. -/
theorem free_eq_revise (hdistinct : pool.ids.Nodup) {index : Nat} {block : Block}
    (hblock : pool.blocks[index]? = some block) (hid : address.block = block.id)
    {check : FreeCheck} (hpasses : block.refusal? check address = none) :
    pool.free check address = (.ok (), pool.revise index (·.pushFree address.offset)) := by
  have hrefusal := refusal?_eq hdistinct hblock hid check
  rw [hpasses] at hrefusal
  simp only [free, hrefusal, pushFree, blockIndex?_eq hdistinct hblock hid,
    Block.contains_of_refusal?_eq_none hpasses, if_true, revise]

/-- An address that its block does not let pass changes nothing. -/
theorem free_eq_error (hdistinct : pool.ids.Nodup) {index : Nat} {block : Block}
    (hblock : pool.blocks[index]? = some block) (hid : address.block = block.id)
    {check : FreeCheck} {fault : Fault} (hfails : block.refusal? check address = some fault) :
    pool.free check address = (.error fault, pool) := by
  rw [free, refusal?_eq hdistinct hblock hid, hfails]

theorem free_foreign (hforeign : address.block ∉ pool.ids) (check : FreeCheck) :
    pool.free check address = (.error (.invalidFree address), pool) := by
  rw [free, refusal?_foreign hforeign]

theorem write_foreign (hforeign : address.block ∉ pool.ids) (bytes : List UInt8) :
    pool.write address bytes = (false, pool) := by
  rw [write, slotRange?, owner?_foreign hforeign, Option.bind_none]

/-- A write changes nothing, or it overwrites the start of a slot in one block. -/
theorem write_cases {bytes : List UInt8} {written : Bool}
    (h : pool.write address bytes = (written, after)) :
    (written = false ∧ after = pool) ∨
    (∃ index block start stop, pool.blocks[index]? = some block ∧
      block.slotRange? address = some (start, stop) ∧ written = true ∧
      after = pool.revise index (·.overwrite start bytes)) := by
  unfold write at h
  cases hindex : pool.blockIndex? address with
  | none =>
      simp only [slotRange?, owner?_eq_bind, hindex, Option.bind_none, Prod.mk.injEq] at h
      exact Or.inl ⟨h.1.symm, h.2.symm⟩
  | some index =>
      rcases contains_of_blockIndex? hindex with ⟨block, hblock, -⟩
      simp only [slotRange?, owner?_eq_bind, hindex, Option.bind_some, hblock] at h
      cases hrange : block.slotRange? address with
      | none =>
          simp only [hrange, Prod.mk.injEq] at h
          exact Or.inl ⟨h.1.symm, h.2.symm⟩
      | some range =>
          simp only [hrange, Prod.mk.injEq] at h
          exact Or.inr ⟨index, block, range.1, range.2, hblock, hrange, h.1.symm, h.2.symm⟩

/-! ## Actions and histories -/

theorem gives_act_allocate_iff {answer : Answer} :
    (pool.act memory .allocate).Gives drawn (answer, after) ↔
      ∃ result, answer = .ofAllocate result ∧
        (pool.allocate memory).Gives drawn (result, after) := by
  constructor
  · intro h
    rcases gives_bind_iff.1 h with ⟨own, rest, ⟨result, middle⟩, rfl, hallocate, hdone⟩
    simp only [gives_done_iff, Prod.mk.injEq] at hdone
    rcases hdone with ⟨rfl, rfl, rfl⟩
    rw [List.append_nil]
    exact ⟨result, rfl, hallocate⟩
  · rintro ⟨result, rfl, hallocate⟩
    exact gives_bind_iff.2 ⟨drawn, [], (result, after), (List.append_nil drawn).symm, hallocate,
      rfl, rfl⟩

theorem act_free_eq {check : FreeCheck} {result : Except Fault Unit}
    (h : pool.free check address = (result, after)) :
    pool.act memory (.free check address) = .done (.ofFree result, after) := by
  simp only [act, h, Prod.map_apply, id_eq]

theorem act_write_eq {bytes : List UInt8} {written : Bool}
    (h : pool.write address bytes = (written, after)) :
    pool.act memory (.write address bytes) = .done (.truth written, after) := by
  simp only [act, h, Prod.map_apply, id_eq]

/-- A history is the first action and its answer, and the history of the others on the pool that the
first leaves. -/
theorem gives_history_cons_iff {action : Action} {actions : List Action} {events : List Event} :
    (pool.history memory (action :: actions)).Gives drawn (events, after) ↔
      ∃ own rest answer middle later, drawn = own ++ rest ∧
        (pool.act memory.first action).Gives own (answer, middle) ∧
        (middle.history memory.rest actions).Gives rest (later, after) ∧
        events = ⟨action, answer⟩ :: later := by
  rw [history_cons, gives_bind_iff]
  constructor
  · rintro ⟨own, rest, ⟨answer, middle⟩, rfl, hact, htail⟩
    rcases gives_bind_iff.1 htail with ⟨rest, none, ⟨later, last⟩, rfl, hrest, hdone⟩
    simp only [gives_done_iff, Prod.mk.injEq] at hdone
    rcases hdone with ⟨rfl, rfl, rfl⟩
    exact ⟨own, rest, answer, middle, later, by rw [List.append_nil], hact, hrest, rfl⟩
  · rintro ⟨own, rest, answer, middle, later, rfl, hact, hrest, rfl⟩
    exact ⟨own, rest, (answer, middle), rfl, hact,
      gives_bind_iff.2 ⟨rest, [], (later, after), (List.append_nil rest).symm, hrest, rfl, rfl⟩⟩

/-! ## All steps -/

/-- All that one action can do to a pool: the identities drawn, the event, and the pool
afterwards. -/
inductive Step (pool : Pool) : List BlockId → Event → Pool → Prop
  /-- A slot is handed out of a block that has room. -/
  | taken {index : Nat} {block : Block} {offset : UInt32}
      (hindex : pool.roomIndex? = some index) (hblock : pool.blocks[index]? = some block)
      (hnext : block.nextOffset? = some offset) :
      Step pool [] ⟨.allocate, .issued (block.addressAt offset)⟩ (pool.takeAt index)
  /-- No block has room, and the first slot of a new block is handed out. -/
  | grew {id : BlockId} {regionBytes : Nat} (hindex : pool.roomIndex? = none)
      (hplan : Block.plan pool.objectSize pool.blockBytes = .ok regionBytes) :
      Step pool [id] ⟨.allocate, .issued ⟨id, 0⟩⟩
        ((pool.grown id regionBytes).takeAt pool.blocks.size)
  /-- No block has room, and none can be added. -/
  | stuck {fault : Fault} {maxBlocks : Nat} (hindex : pool.roomIndex? = none)
      (hmax : maxBlocks = pool.maxBlocks ∨ maxBlocks = pool.nextMaxBlocks) :
      Step pool [] ⟨.allocate, .refused fault⟩ { pool with maxBlocks }
  /-- A slot is taken back. -/
  | freed {check : FreeCheck} {address : Address} {index : Nat} {block : Block}
      (hblock : pool.blocks[index]? = some block) (hcontains : block.contains address = true)
      (hpasses : block.refusal? check address = none) :
      Step pool [] ⟨.free check address, .done⟩ (pool.revise index (·.pushFree address.offset))
  /-- A free is refused. -/
  | refused {check : FreeCheck} {address : Address} {fault : Fault}
      (hrefusal : pool.refusal? check address = some fault) :
      Step pool [] ⟨.free check address, .refused fault⟩ pool
  /-- All slots are taken back. -/
  | reclaimed : Step pool [] ⟨.reclaim, .done⟩ pool.reclaim
  /-- A slot is written. -/
  | written {address : Address} {bytes : List UInt8} {index start stop : Nat} {block : Block}
      (hblock : pool.blocks[index]? = some block)
      (hrange : block.slotRange? address = some (start, stop)) :
      Step pool [] ⟨.write address bytes, .truth true⟩ (pool.revise index (·.overwrite start bytes))
  /-- There is no slot to write. -/
  | unwritten {address : Address} {bytes : List UInt8} :
      Step pool [] ⟨.write address bytes, .truth false⟩ pool
  | read {address : Address} : Step pool [] ⟨.read address, .bytes (pool.bytes? address)⟩ pool
  | contains {address : Address} :
      Step pool [] ⟨.contains address, .truth (pool.contains address)⟩ pool
  | blockIndex {address : Address} :
      Step pool [] ⟨.blockIndex address, .index (pool.blockIndex? address)⟩ pool
  /-- A block is created elsewhere. -/
  | elsewhere {id : BlockId} : Step pool [id] ⟨.elsewhere, .done⟩ pool

/-- Every action takes one of these steps. -/
theorem step_of_act {action : Action} {answer : Answer}
    (h : (pool.act memory action).Gives drawn (answer, after)) :
    Step pool drawn ⟨action, answer⟩ after := by
  cases action with
  | allocate =>
      rcases gives_act_allocate_iff.1 h with ⟨result, rfl, hallocate⟩
      rcases allocate_cases hallocate with
        ⟨index, block, offset, rfl, hindex, hblock, hnext, rfl, rfl⟩ |
        ⟨fault, rfl, hindex, rfl, hmiddle⟩ | ⟨id, regionBytes, rfl, hindex, hplan, rfl, rfl⟩
      · exact Step.taken hindex hblock hnext
      · rcases hmiddle with rfl | rfl
        · exact Step.stuck hindex (Or.inl rfl)
        · exact Step.stuck hindex (Or.inr rfl)
      · exact Step.grew hindex hplan
  | free check address =>
      rcases hfree : pool.free check address with ⟨result, middle⟩
      simp only [act_free_eq hfree, gives_done_iff, Prod.mk.injEq] at h
      rcases h with ⟨rfl, rfl, rfl⟩
      rcases free_cases hfree with
        ⟨fault, hrefusal, rfl, rfl⟩ | ⟨index, block, hblock, hcontains, hpasses, rfl, rfl⟩
      · exact Step.refused hrefusal
      · exact Step.freed hblock hcontains hpasses
  | reclaim =>
      simp only [act, gives_done_iff, Prod.mk.injEq] at h
      rcases h with ⟨rfl, rfl, rfl⟩
      exact Step.reclaimed
  | write address bytes =>
      rcases hwrite : pool.write address bytes with ⟨written, middle⟩
      simp only [act_write_eq hwrite, gives_done_iff, Prod.mk.injEq] at h
      rcases h with ⟨rfl, rfl, rfl⟩
      rcases write_cases hwrite with
        ⟨rfl, rfl⟩ | ⟨index, block, start, stop, hblock, hrange, rfl, rfl⟩
      · exact Step.unwritten
      · exact Step.written hblock hrange
  | read address =>
      simp only [act, gives_done_iff, Prod.mk.injEq] at h
      rcases h with ⟨rfl, rfl, rfl⟩
      exact Step.read
  | contains address =>
      simp only [act, gives_done_iff, Prod.mk.injEq] at h
      rcases h with ⟨rfl, rfl, rfl⟩
      exact Step.contains
  | blockIndex address =>
      simp only [act, gives_done_iff, Prod.mk.injEq] at h
      rcases h with ⟨rfl, rfl, rfl⟩
      exact Step.blockIndex
  | elsewhere =>
      rcases gives_draw_iff.1 h with ⟨id, rest, rfl, rfl, hdone⟩
      simp only [Prod.mk.injEq] at hdone
      rcases hdone with ⟨rfl, rfl⟩
      exact Step.elsewhere

/-- Asking for a slot takes one of them, too. -/
theorem step_of_allocate {result : Except Fault Address}
    (h : (pool.allocate memory).Gives drawn (result, after)) :
    Step pool drawn ⟨.allocate, .ofAllocate result⟩ after :=
  step_of_act (gives_act_allocate_iff.2 ⟨result, rfl, h⟩)

end Pool

end SlotPool
