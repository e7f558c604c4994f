import SlotPool.Block.Supply
import SlotPool.Proofs.Pool.HighWater
import SlotPool.Proofs.Pool.Integrity

/-!
# The order in which slots are handed out

What a pool hands out next, and after that, and so on, can be read off from its blocks.  It empties
the current block, then the others in the order of their creation, and within a block it passes the
cursor over the unused slots before it takes freed ones from the top of the stack.  Only then does
it add a block, empties it, adds another, and so on.  This is so after any use, however wrong.

Main definitions:

- `Block.stock` and `Pool.stock`: the addresses that are left to be handed out, in order.
- `Config.slotsOf`: the addresses of a block that is added.
- `Pool.ServedInOrder`: what a number of requests in a row are answered, and what they leave.

Main results:

- Theorem `Pool.stock_eq_cons`: the address handed out is the head of the stock and leaves its tail.
- Theorem `Pool.Reached.servedInOrder`: requests in a row are served from the stock and then from
  new blocks.
- Theorem `Pool.allocations_in_order`: they are always served, and in this order.
-/

namespace SlotPool

open Fresh

/-! ## Stocks -/

/-- The addresses of a block that are left to be handed out, in order. -/
def Block.stock (block : Block) : List Address :=
  block.supply.map block.addressAt

/-- The addresses that a pool hands out before it grows, in order: those of the current block come
first, and then those of the others in the order of their creation. -/
def Pool.stock (pool : Pool) : List Address :=
  (pool.blocks[pool.current]?.toList ++ pool.blocks.toList.eraseIdx pool.current).flatMap Block.stock

/-- The addresses of the slots of a block that is added, in ascending order. -/
def Config.slotsOf (config : Config) (id : BlockId) : List Address :=
  (List.range config.slotsPerBlock).map fun slot => ⟨id, (slot * config.objectSize).toUInt32⟩

theorem Config.length_slotsOf (config : Config) (id : BlockId) :
    (config.slotsOf id).length = config.slotsPerBlock := by
  simp [slotsOf]

namespace Block

variable {block : Block} {offset : UInt32}

/-- Handing out a slot takes the head off the stock. -/
theorem stock_eq_cons (h : block.WellFormed) (hnext : block.nextOffset? = some offset) :
    block.stock = block.addressAt offset :: block.take.stock := by
  rw [nextOffset?_eq_head? h] at hnext
  rcases List.head?_eq_some_iff.1 hnext with ⟨rest, hsupply⟩
  have haddress : block.take.addressAt = block.addressAt := by
    funext other
    simp [addressAt]
  rw [stock, stock, supply_take h, haddress, hsupply]
  rfl

theorem stock_eq_nil (h : block.WellFormed) (hroom : ¬ block.hasRoom = true) :
    block.stock = [] := by
  rw [hasRoom_iff h, not_not] at hroom
  rw [stock, hroom, List.map_nil]

/-- A new block has all its slots in stock. -/
theorem stock_fresh (config : Config) (id : BlockId) :
    (fresh id config.objectSize config.regionBytes).stock = config.slotsOf id := by
  have hplaces : List.range' 0 config.slotsPerBlock config.objectSize =
      (List.range config.slotsPerBlock).map (· * config.objectSize) := by
    apply List.ext_getElem
    · simp
    · intro slot hslot _
      simp [Nat.mul_comm]
  rw [Config.slotsPerBlock] at hplaces
  simp only [stock, supply, unused, fresh, Config.slotsOf, Config.slotsPerBlock, Nat.sub_zero,
    List.reverse_nil, List.append_nil, hplaces, List.map_map]
  rfl

end Block

/-! ## Lists of which some parts are empty -/

section Empty

variable {α β : Type} {items : List α} {parts : α → List β} {item : α} {index : Nat}

/-- An item without parts can be left out. -/
theorem flatMap_eraseIdx_of_nil (hempty : ∀ item, items[index]? = some item → parts item = []) :
    (items.eraseIdx index).flatMap parts = items.flatMap parts := by
  induction items generalizing index with
  | nil => rfl
  | cons head items ih =>
      cases index with
      | zero => simp [hempty head rfl]
      | succ index => simp [ih fun item hitem => hempty item hitem]

/-- The parts of the first item that has any come first. -/
theorem flatMap_eq_of_first (hitem : items[index]? = some item)
    (hempty : ∀ earlier < index, ∀ other, items[earlier]? = some other → parts other = []) :
    items.flatMap parts = parts item ++ (items.eraseIdx index).flatMap parts := by
  induction items generalizing index with
  | nil => simp at hitem
  | cons head items ih =>
      cases index with
      | zero => simp [Option.some.inj hitem]
      | succ index =>
          have hhead : parts head = [] := hempty 0 (Nat.succ_pos index) head rfl
          have hothers := ih hitem fun earlier hlt other hother =>
            hempty (earlier + 1) (Nat.succ_lt_succ hlt) other hother
          simp [hhead, hothers]

end Empty

namespace Pool

variable {memory past part : Memory} {config : Config} {drawn more : List BlockId}
variable {events : List Event} {pool after : Pool} {block : Block} {index : Nat}

/-! ## One request -/

/-- The stock starts with that of the block chosen to serve the next slot. -/
theorem stock_eq_append (hwell : ∀ block ∈ pool.blocks, block.WellFormed)
    (hindex : pool.roomIndex? = some index) (hblock : pool.blocks[index]? = some block) :
    pool.stock = block.stock ++ (pool.blocks.toList.eraseIdx index).flatMap Block.stock := by
  unfold roomIndex? at hindex
  split at hindex
  · rcases Option.some.inj hindex with rfl
    simp [stock, hblock]
  · next hdrained =>
      -- The current block is empty, and so are all before the one that was found.
      have hcurrent : ∀ other, pool.blocks[pool.current]? = some other → other.stock = [] := by
        intro other hother
        apply Block.stock_eq_nil (hwell other (Array.mem_of_getElem? hother))
        simpa [hasRoomAt, hother] using hdrained
      have hhead : pool.blocks[pool.current]?.toList.flatMap Block.stock = [] := by
        rw [List.flatMap_eq_nil_iff]
        intro other hmem
        exact hcurrent other (Option.mem_toList.1 hmem)
      have hblock' : pool.blocks.toList[index]? = some block := by simpa using hblock
      rw [stock, List.flatMap_append, hhead, List.nil_append,
        flatMap_eraseIdx_of_nil (by simpa using hcurrent)]
      apply flatMap_eq_of_first hblock'
      intro earlier hlt other hother
      rcases Array.findIdx?_eq_some_iff_getElem.1 hindex with ⟨hsize, -, hfirst⟩
      have hother' : pool.blocks[earlier]? = some other := by simpa using hother
      rcases Array.getElem?_eq_some_iff.1 hother' with ⟨hearlier, rfl⟩
      exact Block.stock_eq_nil (hwell _ (Array.getElem_mem hearlier)) (hfirst earlier hlt)

/-- Once a slot of a block was handed out, that block is the current one. -/
theorem stock_takeAt (hblock : pool.blocks[index]? = some block) :
    (pool.takeAt index).stock =
      block.take.stock ++ (pool.blocks.toList.eraseIdx index).flatMap Block.stock := by
  simp [stock, takeAt, revise, Array.getElem?_modify, hblock, List.eraseIdx_modify_of_eq]

/-- The address handed out is the head of the stock, and the tail of the stock is left. -/
theorem stock_eq_cons {offset : UInt32} (hwell : ∀ block ∈ pool.blocks, block.WellFormed)
    (hindex : pool.roomIndex? = some index) (hblock : pool.blocks[index]? = some block)
    (hnext : block.nextOffset? = some offset) :
    pool.stock = block.addressAt offset :: (pool.takeAt index).stock := by
  have hmem := Array.mem_of_getElem? hblock
  rw [stock_eq_append hwell hindex hblock, stock_takeAt hblock,
    Block.stock_eq_cons (hwell block hmem) hnext, List.cons_append]

/-- A pool without room has nothing in stock. -/
theorem stock_eq_nil (hwell : ∀ block ∈ pool.blocks, block.WellFormed)
    (hindex : pool.roomIndex? = none) : pool.stock = [] := by
  have hnone : ∀ block ∈ pool.blocks, block.stock = [] := fun block hmem =>
    Block.stock_eq_nil (hwell block hmem) (not_hasRoom_of_roomIndex? hindex block hmem)
  rw [stock, List.flatMap_eq_nil_iff]
  intro block hmem
  rcases List.mem_append.1 hmem with hcurrent | hother
  · exact hnone block (Array.mem_of_getElem? (Option.mem_toList.1 hcurrent))
  · exact hnone block (Array.mem_toList_iff.1 (List.mem_of_mem_eraseIdx hother))

/-- A block added is handed out from its first slot on, and nothing else is in stock. -/
theorem slotsOf_eq_cons (h : Sound config drawn pool) (hvalid : config.validate = .ok ())
    (hindex : pool.roomIndex? = none) (id : BlockId) :
    config.slotsOf id =
      ⟨id, 0⟩ :: ((pool.grown id config.regionBytes).takeAt pool.blocks.size).stock := by
  have hplan := Config.plan_eq_ok hvalid
  have hfresh := Block.stock_eq_cons (Block.wellFormed_of_plan id hplan)
    (nextOffset?_fresh id hplan)
  have hothers : pool.blocks.toList.flatMap Block.stock = [] := by
    rw [List.flatMap_eq_nil_iff]
    intro block hmem
    rw [Array.mem_toList_iff] at hmem
    exact Block.stock_eq_nil (h.wellFormed block hmem) (not_hasRoom_of_roomIndex? hindex block hmem)
  have hlast : (pool.grown id config.regionBytes).blocks[pool.blocks.size]? =
      some (.fresh id config.objectSize config.regionBytes) := by
    simp [grown, h.objectSize_eq]
  have hrest : (pool.grown id config.regionBytes).blocks.toList.eraseIdx pool.blocks.size =
      pool.blocks.toList := by
    rw [grown, Array.toList_push, List.eraseIdx_append_of_length_le (by simp)]
    simp
  rw [stock_takeAt hlast, hrest, hothers, List.append_nil, ← Block.stock_fresh, hfresh]
  rfl

/-- A pool without room that gets memory adds a block of the next identity and hands out its first
slot. -/
theorem gives_allocate_grown {regionBytes : Nat} (hindex : pool.roomIndex? = none)
    (hplan : Block.plan pool.objectSize pool.blockBytes = .ok regionBytes)
    (hmemory : memory.Provides pool.objectSize regionBytes (2 * pool.blocks.size)) (id : BlockId) :
    (pool.allocate memory).Gives [id]
      (.ok ⟨id, 0⟩, (pool.grown id regionBytes).takeAt pool.blocks.size) := by
  have hlast : (pool.grown id regionBytes).blocks[pool.blocks.size]? =
      some (.fresh id pool.objectSize regionBytes) := by
    simp [grown]
  have hsize : (pool.grown id regionBytes).blocks.size - 1 = pool.blocks.size := by simp [grown]
  have htake := takeFrom_eq hlast (nextOffset?_fresh id hplan)
  have hgrow : (pool.grow memory).Gives [id] (.ok (), pool.grown id regionBytes) := by
    have hgrows := canGrow_of_provides hplan hmemory
    simp only [grow, hgrows.reserveReference_eq_ok, Block.create, hplan, hgrows.block, draw_bind,
      done_bind]
    exact ⟨rfl, rfl⟩
  simp only [allocate, hindex, gives_bind_iff]
  refine ⟨[id], [], _, rfl, hgrow, ?_⟩
  simp only [hsize, htake, gives_done_iff, true_and]
  rfl

/-! ## Requests in a row -/

/-- The number of blocks that are added for `count` requests in a row: as many as are needed for
those that the stock does not serve. -/
def blocksNeeded (config : Config) (pool : Pool) (count : Nat) : Nat :=
  (count - pool.stock.length) ⌈/⌉ config.slotsPerBlock

/-- With one block more there is one request less, and as many slots more as a block has. -/
theorem ceilDiv_succ_eq {slots : Nat} (hpos : 0 < slots) (count : Nat) :
    (count + 1) ⌈/⌉ slots = (count - (slots - 1)) ⌈/⌉ slots + 1 := by
  rw [Nat.ceilDiv_eq_add_pred_div, Nat.ceilDiv_eq_add_pred_div, ← Nat.add_div_right _ hpos]
  rcases Nat.le_total (slots - 1) count with hle | hle
  · congr 1
    omega
  · rw [Nat.div_eq_of_lt_le (k := 1) (by omega) (by omega),
      Nat.div_eq_of_lt_le (k := 1) (by omega) (by omega)]

/-- A request served from the stock leaves as many blocks to be added. -/
theorem blocksNeeded_of_cons (config : Config) {address : Address}
    (hstock : pool.stock = address :: after.stock) (count : Nat) :
    blocksNeeded config after count = blocksNeeded config pool (count + 1) := by
  simp only [blocksNeeded, hstock, List.length_cons, Nat.add_sub_add_right]

/-- A request for which a block is added leaves one block less to be added. -/
theorem blocksNeeded_grown (h : Sound config drawn pool) (hvalid : config.validate = .ok ())
    (hindex : pool.roomIndex? = none) (id : BlockId) (count : Nat) :
    blocksNeeded config pool (count + 1) = blocksNeeded config
      ((pool.grown id config.regionBytes).takeAt pool.blocks.size) count + 1 := by
  have hlength := congrArg List.length (slotsOf_eq_cons h hvalid hindex id)
  rw [Config.length_slotsOf, List.length_cons] at hlength
  have hleft : config.slotsPerBlock - 1 =
      ((pool.grown id config.regionBytes).takeAt pool.blocks.size).stock.length := by
    omega
  rw [blocksNeeded, blocksNeeded, stock_eq_nil h.wellFormed hindex, ← hleft]
  exact ceilDiv_succ_eq (slotsPerBlock_pos hvalid) count

@[simp]
theorem blockCount_takeAt (pool : Pool) (index : Nat) :
    (pool.takeAt index).blockCount = pool.blockCount := by
  simp [blockCount, takeAt, revise]

@[simp]
theorem blockCount_grown (pool : Pool) (id : BlockId) (regionBytes : Nat) :
    (pool.grown id regionBytes).blockCount = pool.blockCount + 1 := by
  simp [blockCount, grown]

/-- A block that is added is one of those that were needed. -/
theorem blockCount_add_blocksNeeded_grown (h : Sound config drawn pool)
    (hvalid : config.validate = .ok ()) (hindex : pool.roomIndex? = none) (id : BlockId)
    (count : Nat) :
    ((pool.grown id config.regionBytes).takeAt pool.blocks.size).blockCount + blocksNeeded config
        ((pool.grown id config.regionBytes).takeAt pool.blocks.size) count =
      pool.blockCount + blocksNeeded config pool (count + 1) := by
  rw [blocksNeeded_grown h hvalid hindex id, blockCount_takeAt, blockCount_grown,
    Nat.add_right_comm, Nat.add_assoc]

/-- What `count` requests for a slot in a row are answered if they draw `more`, and what they
leave. -/
structure ServedInOrder (memory : Memory) (config : Config) (pool : Pool) (count : Nat)
    (more : List BlockId) (answers : List Event) (after : Pool) : Prop where
  /-- The stock is handed out, and then the slots of one new block after another. -/
  answers_eq : answers = ((pool.stock ++ more.flatMap config.slotsOf).take count).map
    fun address => ⟨.allocate, .issued address⟩
  /-- Every request is served. -/
  length_answers : answers.length = count
  /-- There are as many new blocks as are needed. -/
  length_more : more.length = blocksNeeded config pool count
  /-- They come after the old ones. -/
  ids_eq : after.ids = pool.ids ++ more
  /-- The next request adds a block exactly when no block has a slot left. -/
  grows_iff : ∀ part own result next, memory.Part part →
    (after.allocate part).Gives own (result, next) →
      (next.blockCount = after.blockCount + 1 ↔ ∀ block ∈ after.blocks, block.isExhausted = true)

namespace Reached

/-- With memory at hand a request is served, from the stock or else from a block that is added. -/
theorem served_cases {result : Except Fault Address} (h : Reached past config drawn events pool)
    (hmemory : memory.Provides config.objectSize config.regionBytes (2 * pool.blockCount))
    (hallocate : (pool.allocate memory).Gives more (result, after)) :
    (∃ index address, more = [] ∧ pool.roomIndex? = some index ∧ result = .ok address ∧
      pool.stock = address :: (pool.takeAt index).stock ∧ after = pool.takeAt index) ∨
    ∃ id, more = [id] ∧ pool.roomIndex? = none ∧ result = .ok ⟨id, 0⟩ ∧
      after = (pool.grown id config.regionBytes).takeAt pool.blocks.size := by
  rcases allocate_cases hallocate with
    ⟨index, block, offset, hmore, hindex, hblock, hnext, hresult, hafter⟩ | ⟨fault, -, -, rfl, -⟩ |
    ⟨id, regionBytes, hmore, hindex, hplan, hresult, hafter⟩
  · have hstock := stock_eq_cons h.sound.wellFormed hindex hblock hnext
    exact Or.inl ⟨index, block.addressAt offset, hmore, hindex, hresult, hstock, hafter⟩
  · rw [← h.sound.objectSize_eq] at hmemory
    rcases allocate_eq_ok h.plan_eq_ok hmemory hallocate with ⟨address, hok⟩
    contradiction
  · rw [h.plan_eq_ok] at hplan
    rcases Except.ok.inj hplan with rfl
    exact Or.inr ⟨id, hmore, hindex, hresult, hafter⟩

/-- A request adds a block exactly when no block has a slot left. -/
theorem blockCount_succ_iff {result : Except Fault Address}
    (h : Reached past config drawn events pool)
    (hmemory : memory.Provides config.objectSize config.regionBytes (2 * pool.blockCount))
    (hallocate : (pool.allocate memory).Gives more (result, after)) :
    after.blockCount = pool.blockCount + 1 ↔ ∀ block ∈ pool.blocks, block.isExhausted = true := by
  rcases h.served_cases hmemory hallocate with
    ⟨index, address, -, hindex, -, -, rfl⟩ | ⟨id, -, hindex, -, rfl⟩
  · rcases hasRoom_of_roomIndex? hindex with ⟨block, hblock, hroom⟩
    refine ⟨fun hgrew => ?_, fun hall => ?_⟩
    · simp at hgrew
    · simpa [Block.isExhausted, hroom] using hall block (Array.mem_of_getElem? hblock)
  · refine ⟨fun _ block hmem => ?_, fun _ => ?_⟩
    · simpa [Block.isExhausted] using not_hasRoom_of_roomIndex? hindex block hmem
    · rw [blockCount_takeAt, blockCount_grown]

/-- Requests in a row are served from the stock and then from new blocks. -/
theorem servedInOrder {count : Nat} {answers : List Event}
    (h : Reached past config drawn events pool)
    (hmemory : memory.Provides config.objectSize config.regionBytes
      (2 * (pool.blockCount + blocksNeeded config pool count)))
    (hpart : memory.Part part) (hascending : Ascending (drawn ++ more))
    (hrun : (pool.history part (List.replicate count .allocate)).Gives more (answers, after)) :
    ServedInOrder memory config pool count more answers after := by
  induction count generalizing past part pool drawn more events answers with
  | zero =>
      simp only [List.replicate_zero, history_nil, gives_done_iff, Prod.mk.injEq] at hrun
      rcases hrun with ⟨rfl, rfl, rfl⟩
      refine ⟨rfl, rfl, by simp [blocksNeeded], (List.append_nil _).symm, ?_⟩
      intro part own result next hpart hnext
      have hnow := hmemory.mono (Nat.mul_le_mul_left 2 (Nat.le_add_right pool.blockCount _))
      exact h.blockCount_succ_iff (hnow.part hpart) hnext
  | succ count ih =>
      rw [List.replicate_succ, gives_history_cons_iff] at hrun
      rcases hrun with ⟨own, rest, answer, middle, later, rfl, hact, hrest, rfl⟩
      rcases gives_act_allocate_iff.1 hact with ⟨result, rfl, hallocate⟩
      rw [← List.append_assoc] at hascending
      have hmiddle := h.allocated_join hascending.left hallocate
      have hnow := hmemory.mono (Nat.mul_le_mul_left 2 (Nat.le_add_right pool.blockCount _))
      rcases h.served_cases (hnow.part hpart.first) hallocate with
        ⟨index, address, rfl, -, rfl, hstock, rfl⟩ | ⟨id, rfl, hindex, rfl, rfl⟩
      · -- The head of the stock is handed out.
        have hneeded := blocksNeeded_of_cons config hstock count
        have hserved := ih hmiddle (by rwa [hneeded, blockCount_takeAt]) hpart.rest hascending hrest
        refine ⟨?_, ?_, hserved.length_more.trans hneeded, ?_, hserved.grows_iff⟩
        · rw [hserved.answers_eq, hstock]
          rfl
        · rw [List.length_cons, hserved.length_answers]
        · rw [hserved.ids_eq, ids_takeAt]
          rfl
      · -- The stock was empty, and now it is what a new block has left.
        have hneeded := blocksNeeded_grown h.sound h.valid hindex id count
        rw [← blockCount_add_blocksNeeded_grown h.sound h.valid hindex id] at hmemory
        have hserved := ih hmiddle hmemory hpart.rest hascending hrest
        refine ⟨?_, ?_, ?_, ?_, hserved.grows_iff⟩
        · rw [hserved.answers_eq, stock_eq_nil h.sound.wellFormed hindex, List.nil_append,
            List.singleton_append, List.flatMap_cons, slotsOf_eq_cons h.sound h.valid hindex id]
          rfl
        · rw [List.length_cons, hserved.length_answers]
        · rw [List.singleton_append, List.length_cons, hserved.length_more, hneeded]
        · rw [hserved.ids_eq, ids_takeAt, ids_grown, List.append_assoc]

/-- Requests in a row can be served with any identities, as many as blocks are needed. -/
theorem exists_served {count : Nat} (h : Reached past config drawn events pool)
    (hmemory : memory.Provides config.objectSize config.regionBytes
      (2 * (pool.blockCount + blocksNeeded config pool count)))
    (hpart : memory.Part part) (hascending : Ascending (drawn ++ more))
    (hlength : more.length = blocksNeeded config pool count) :
    ∃ answers after,
      (pool.history part (List.replicate count .allocate)).Gives more (answers, after) := by
  induction count generalizing past part pool drawn more events with
  | zero =>
      have hnone : more = [] := by simpa [blocksNeeded] using hlength
      exact ⟨[], pool, hnone, rfl⟩
  | succ count ih =>
      cases hindex : pool.roomIndex? with
      | some index =>
          rcases hasRoom_of_roomIndex? hindex with ⟨block, hblock, hroom⟩
          rcases Block.hasRoom_iff_exists.1 hroom with ⟨offset, hnext⟩
          have hstock := stock_eq_cons h.sound.wellFormed hindex hblock hnext
          have hneeded := blocksNeeded_of_cons config hstock count
          have hallocate : (pool.allocate part.first).Gives []
              (.ok (block.addressAt offset), pool.takeAt index) := by
            simp only [allocate, hindex, takeFrom_eq hblock hnext, gives_done_iff, and_self]
          have hascending' : Ascending (drawn ++ []) := by
            rw [List.append_nil]
            exact h.ascending
          have hmiddle := h.allocated_join hascending' hallocate
          rw [List.append_nil] at hmiddle
          rcases ih hmiddle (by rwa [hneeded, blockCount_takeAt]) hpart.rest hascending
            (hlength.trans hneeded.symm) with ⟨answers, after, hrest⟩
          exact ⟨_, after, gives_history_cons_iff.2 ⟨[], more, _, _, answers, rfl,
            gives_act_allocate_iff.2 ⟨_, rfl, hallocate⟩, hrest, rfl⟩⟩
      | none =>
          have hnow : memory.Provides pool.objectSize config.regionBytes
              (2 * pool.blocks.size) := by
            rw [h.sound.objectSize_eq]
            exact hmemory.mono (Nat.mul_le_mul_left 2 (Nat.le_add_right _ _))
          cases more with
          | nil =>
              rw [blocksNeeded_grown h.sound h.valid hindex ⟨0⟩ count] at hlength
              contradiction
          | cons id rest =>
              have hneeded := blocksNeeded_grown h.sound h.valid hindex id count
              have hallocate :=
                gives_allocate_grown hindex h.plan_eq_ok (hnow.part hpart.first) id
              rw [List.append_cons] at hascending
              have hmiddle := h.allocated_join hascending.left hallocate
              rw [hneeded] at hlength
              rw [← blockCount_add_blocksNeeded_grown h.sound h.valid hindex id] at hmemory
              rcases ih hmiddle hmemory hpart.rest hascending (Nat.succ_injective hlength) with
                ⟨answers, after, hrest⟩
              exact ⟨_, after, gives_history_cons_iff.2 ⟨[id], rest, _, _, answers, rfl,
                gives_act_allocate_iff.2 ⟨_, rfl, hallocate⟩, hrest, rfl⟩⟩

end Reached

/-! ## The main result -/

/-- However a pool was used, requests in a row are all served if it gets the memory it asks for:
first from the stock, and then from new blocks, one after another. -/
theorem allocations_in_order (h : Reached past config drawn events pool) (count : Nat)
    (hmemory : memory.Provides config.objectSize config.regionBytes
      (2 * (pool.blockCount + blocksNeeded config pool count))) :
    (∀ more, Ascending (drawn ++ more) → more.length = blocksNeeded config pool count →
      ∃ answers after,
        (pool.history memory (List.replicate count .allocate)).Gives more (answers, after)) ∧
    ∀ more answers after, Ascending (drawn ++ more) →
      (pool.history memory (List.replicate count .allocate)).Gives more (answers, after) →
      ServedInOrder memory config pool count more answers after := by
  constructor
  · intro more hascending hlength
    exact h.exists_served hmemory .all hascending hlength
  · intro more answers after hascending hrun
    exact h.servedInOrder hmemory .all hascending hrun

/-- After the short history the second block is the current one and has a slot that was never used;
the first one has a slot that was freed; and then blocks are added. -/
theorem allocations_in_order_reusePool :
    Reached .ample ⟨8, 1, 16⟩ [⟨1⟩, ⟨2⟩] reuseEvents reusePool ∧
      Memory.ample.Provides 8 (Config.regionBytes ⟨8, 1, 16⟩)
        (2 * (reusePool.blockCount + blocksNeeded ⟨8, 1, 16⟩ reusePool 5)) ∧
      Ascending ([⟨1⟩, ⟨2⟩] ++ [⟨3⟩, ⟨4⟩]) ∧ blocksNeeded ⟨8, 1, 16⟩ reusePool 5 = 2 ∧
      ∃ answers after, (reusePool.history .ample (List.replicate 5 .allocate)).Gives [⟨3⟩, ⟨4⟩]
          (answers, after) ∧
        answers.map Event.answer = [.issued ⟨⟨2⟩, 8⟩, .issued ⟨⟨1⟩, 8⟩, .issued ⟨⟨3⟩, 0⟩,
          .issued ⟨⟨3⟩, 8⟩, .issued ⟨⟨4⟩, 0⟩] ∧
        after.ids = [⟨1⟩, ⟨2⟩, ⟨3⟩, ⟨4⟩] := by
  have hneeded : blocksNeeded ⟨8, 1, 16⟩ reusePool 5 = 2 := by decide +kernel
  have hmemory : Memory.ample.Provides 8 (Config.regionBytes ⟨8, 1, 16⟩)
      (2 * (reusePool.blockCount + blocksNeeded ⟨8, 1, 16⟩ reusePool 5)) := by
    rw [hneeded]
    exact .of_ample (by decide +kernel) (by decide +kernel) (by decide +kernel)
  have hascending : Ascending ([⟨1⟩, ⟨2⟩] ++ [⟨3⟩, ⟨4⟩]) := by decide
  rcases allocations_in_order reached_reusePool 5 hmemory with ⟨hserves, hserved⟩
  rcases hserves [⟨3⟩, ⟨4⟩] hascending hneeded.symm with ⟨answers, after, hrun⟩
  have horder := hserved [⟨3⟩, ⟨4⟩] answers after hascending hrun
  refine ⟨reached_reusePool, hmemory, hascending, hneeded, answers, after, hrun, ?_, ?_⟩
  · rw [horder.answers_eq]
    decide +kernel
  · rw [horder.ids_eq]
    rfl

end Pool

end SlotPool
