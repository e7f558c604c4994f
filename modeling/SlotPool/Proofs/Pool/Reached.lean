import SlotPool.Proofs.Pool.Steps

/-!
# Reachable pools

A pool is reached when it was built from a configuration and things were done with it one
after another.  Others may draw identities from the same supply at any time, before the first
block is built and between any two, so all that is known of the identities drawn on behalf of
the pool is that their ranks go up.  And the system may answer differently each time, so all
that is known of its answers is that they are parts of those to one run.

Main definitions:

- `Pool.Reached`: a pool that was built and to which some events happened.
- `Pool.Sound`: what holds of such a pool however it was used.

Main results:

- Theorem `Pool.reached_history`: carrying out a list of actions on a new pool reaches the
  pool that it leaves.
- Theorem `Pool.Sound.step`: every step keeps a pool sound.
- Theorem `Pool.Reached.sound`: every pool reached is sound.
-/

namespace SlotPool.Pool

open Fresh

/-- A pool built from `config`, after the identities `drawn` were drawn and `events` happened.  Each
of them was answered by some part of `memory`. -/
inductive Reached (memory : Memory) (config : Config) : List BlockId → List Event → Pool → Prop
  /-- The pool was just built. -/
  | created {part : Memory} {drawn : List BlockId} {pool : Pool} (hpart : memory.Part part)
      (hascending : Ascending drawn) (hcreate : (create part config).Gives drawn (.ok pool)) :
      Reached memory config drawn [] pool
  /-- One more thing was done with the pool. -/
  | acted {part : Memory} {drawn more : List BlockId} {events : List Event} {pool after : Pool}
      {action : Action} {answer : Answer} (hreached : Reached memory config drawn events pool)
      (hpart : memory.Part part) (hascending : Ascending (drawn ++ more))
      (hact : (pool.act part action).Gives more (answer, after)) :
      Reached memory config (drawn ++ more) (events ++ [⟨action, answer⟩]) after

variable {memory part later : Memory} {config : Config} {drawn more : List BlockId}
variable {events : List Event} {pool after : Pool}

theorem Reached.ascending (h : Reached memory config drawn events pool) : Ascending drawn := by
  cases h with
  | created _ hascending _ => exact hascending
  | acted _ _ hascending _ => exact hascending

/-- More answers do no harm. -/
theorem Reached.mono (h : Reached part config drawn events pool) (hpart : memory.Part part) :
    Reached memory config drawn events pool := by
  induction h with
  | created hpiece hascending hcreate => exact .created (hpart.trans hpiece) hascending hcreate
  | acted _ hpiece hascending hact ih => exact ih.acted (hpart.trans hpiece) hascending hact

theorem Reached.valid (h : Reached memory config drawn events pool) :
    config.validate = .ok () := by
  induction h with
  | created _ _ hcreate => exact (eq_ofBlocks_of_create hcreate).1
  | acted _ _ _ _ ih => exact ih

/-- A pool has blocks from the beginning. -/
theorem Reached.initialBlocks_pos (h : Reached memory config drawn events pool) :
    0 < config.initialBlocks :=
  (Config.validate_eq_ok_iff.1 h.valid).2.1

/-- A slot is asked for. -/
theorem Reached.allocated {result : Except Fault Address}
    (h : Reached memory config drawn events pool) (hpart : memory.Part part)
    (hascending : Ascending (drawn ++ more))
    (hallocate : (pool.allocate part).Gives more (result, after)) :
    Reached memory config (drawn ++ more) (events ++ [⟨.allocate, .ofAllocate result⟩]) after :=
  h.acted hpart hascending (gives_act_allocate_iff.2 ⟨result, rfl, hallocate⟩)

/-- Something is done that draws no identity. -/
theorem Reached.acted_done {action : Action} {answer : Answer}
    (h : Reached memory config drawn events pool)
    (hact : pool.act memory action = .done (answer, after)) :
    Reached memory config drawn (events ++ [⟨action, answer⟩]) after := by
  have hascending : Ascending (drawn ++ []) := by
    rw [List.append_nil]
    exact h.ascending
  have hgives : (pool.act memory action).Gives [] (answer, after) := by
    rw [hact]
    exact ⟨rfl, rfl⟩
  have hacted := h.acted Memory.Part.all hascending hgives
  rw [List.append_nil] at hacted
  exact hacted

/-- A pool reached stays reached when a list of actions is carried out on it. -/
theorem Reached.history {actions : List Action} {added : List Event}
    (h : Reached memory config drawn events pool) (hpart : memory.Part part)
    (hascending : Ascending (drawn ++ more))
    (hhistory : (pool.history part actions).Gives more (added, after)) :
    Reached memory config (drawn ++ more) (events ++ added) after := by
  induction actions generalizing part pool drawn more events added with
  | nil =>
      simp only [history_nil, gives_done_iff, Prod.mk.injEq] at hhistory
      rcases hhistory with ⟨rfl, rfl, rfl⟩
      simpa using h
  | cons action actions ih =>
      rcases gives_history_cons_iff.1 hhistory with
        ⟨own, rest, answer, middle, tail, rfl, hact, hrest, rfl⟩
      rw [← List.append_assoc] at hascending ⊢
      rw [List.append_cons]
      exact ih (h.acted hpart.first hascending.left hact) hpart.rest hascending hrest

/-- Whatever the system answers later, the answers of before can be counted in. -/
theorem Reached.join (h : Reached memory config drawn events pool) (later : Memory) :
    Reached (memory.join later) config drawn events pool :=
  h.mono (Memory.part_join_left memory later)

/-- One more thing is done, whatever the system answers now. -/
theorem Reached.acted_join {action : Action} {answer : Answer}
    (h : Reached memory config drawn events pool) (hascending : Ascending (drawn ++ more))
    (hact : (pool.act later action).Gives more (answer, after)) :
    Reached (memory.join later) config (drawn ++ more) (events ++ [⟨action, answer⟩]) after :=
  (h.join later).acted (Memory.part_join_right memory later) hascending hact

theorem Reached.allocated_join {result : Except Fault Address}
    (h : Reached memory config drawn events pool) (hascending : Ascending (drawn ++ more))
    (hallocate : (pool.allocate later).Gives more (result, after)) :
    Reached (memory.join later) config (drawn ++ more)
      (events ++ [⟨.allocate, .ofAllocate result⟩]) after :=
  (h.join later).allocated (Memory.part_join_right memory later) hascending hallocate

/-- Carrying out actions on a new pool, with nobody else around, reaches the pool that it leaves. -/
theorem reached_history {first next last : Nat} {actions : List Action} {start : Pool}
    (hcreate : (create memory.first config).runFrom first = (.ok start, next))
    (hhistory : (start.history memory.rest actions).runFrom next = ((events, pool), last)) :
    Reached memory config ((List.range' first (last - first)).map BlockId.mk) events pool := by
  have hbuilt := gives_of_runFrom hcreate
  have hran := gives_of_runFrom hhistory
  have hle := le_runFrom (create memory.first config) first
  have hle' := le_runFrom (start.history memory.rest actions) next
  simp only [hcreate] at hle
  simp only [hhistory] at hle'
  have hsplit := range'_append_of_le hle hle'
  have hascending := ascending_range' first (last - first)
  rw [hsplit] at hascending ⊢
  have hnew := Reached.created Memory.Part.all.first hascending.left hbuilt
  exact hnew.history Memory.Part.all.rest hascending hran

/-! ## What holds of every pool reached -/

/-- The numbers of a pool fit its configuration, and its blocks were created in the order in which
they stand. -/
structure Sound (config : Config) (drawn : List BlockId) (pool : Pool) : Prop where
  objectSize_eq : pool.objectSize = config.objectSize
  blockBytes_eq : pool.blockBytes = config.effectiveBlockBytes
  ids_sublist : pool.ids.Sublist drawn
  wellFormed : ∀ block ∈ pool.blocks, block.WellFormed
  sized : ∀ block ∈ pool.blocks,
    block.objectSize = config.objectSize ∧ block.regionBytes = config.regionBytes

namespace Sound

theorem of_create (hcreate : (create memory config).Gives drawn (.ok pool)) :
    Sound config drawn pool := by
  rcases eq_ofBlocks_of_create hcreate with ⟨hvalid, -, hpool⟩
  refine ⟨?_, ?_, ?_, ?_, ?_⟩
  · rw [hpool]
    rfl
  · rw [hpool]
    rfl
  · rw [hpool]
    simp [ids, ofBlocks, Function.comp_def, Block.fresh]
  · intro block hmem
    rcases exists_fresh_of_create hcreate hmem with ⟨id, rfl⟩
    exact Block.wellFormed_of_plan id (Config.plan_eq_ok hvalid)
  · intro block hmem
    rcases exists_fresh_of_create hcreate hmem with ⟨id, rfl⟩
    exact ⟨rfl, rfl⟩

/-- Blocks to be added can be planned as the first ones were. -/
theorem plan_eq_ok (h : Sound config drawn pool) (hvalid : config.validate = .ok ()) :
    Block.plan pool.objectSize pool.blockBytes = .ok config.regionBytes := by
  rw [h.objectSize_eq, h.blockBytes_eq]
  exact Config.plan_eq_ok hvalid

theorem mono (h : Sound config drawn pool) : Sound config (drawn ++ more) pool :=
  { h with ids_sublist := h.ids_sublist.trans (List.sublist_append_left _ _) }

/-- A change to one block that keeps it well formed and of its size keeps the pool sound. -/
theorem revise (h : Sound config drawn pool) (hdistinct : pool.ids.Nodup) {index : Nat}
    {block : Block} {change : Block → Block} (hblock : pool.blocks[index]? = some block)
    (hid : ∀ block, (change block).id = block.id) (hwell : (change block).WellFormed)
    (hsize : (change block).objectSize = block.objectSize ∧
      (change block).regionBytes = block.regionBytes) :
    Sound config drawn (pool.revise index change) := by
  have hmem : block ∈ pool.blocks := Array.mem_of_getElem? hblock
  refine ⟨h.objectSize_eq, h.blockBytes_eq, ?_, ?_, ?_⟩
  · rw [ids_revise pool index hid]
    exact h.ids_sublist
  · intro other hother
    rcases mem_revise hdistinct hblock hother with rfl | ⟨hold, -⟩
    · exact hwell
    · exact h.wellFormed other hold
  · intro other hother
    rcases mem_revise hdistinct hblock hother with rfl | ⟨hold, -⟩
    · rw [hsize.1, hsize.2]
      exact h.sized block hmem
    · exact h.sized other hold

theorem takeAt (h : Sound config drawn pool) (hdistinct : pool.ids.Nodup) {index : Nat}
    {block : Block} (hblock : pool.blocks[index]? = some block) :
    Sound config drawn (pool.takeAt index) := by
  have hmem : block ∈ pool.blocks := Array.mem_of_getElem? hblock
  have hrevise := h.revise hdistinct hblock Block.take_id (h.wellFormed block hmem).take
    ⟨block.take_objectSize, block.take_regionBytes⟩
  exact { hrevise with }

/-- A block added is of the size of all the others. -/
theorem grown (h : Sound config drawn pool) (hvalid : config.validate = .ok ()) (id : BlockId)
    {regionBytes : Nat} (hplan : Block.plan pool.objectSize pool.blockBytes = .ok regionBytes) :
    Sound config (drawn ++ [id]) (pool.grown id regionBytes) := by
  have hregion : regionBytes = config.regionBytes := by
    rw [h.plan_eq_ok hvalid] at hplan
    exact (Except.ok.inj hplan).symm
  refine ⟨h.objectSize_eq, h.blockBytes_eq, ?_, ?_, ?_⟩
  · rw [ids_grown]
    exact h.ids_sublist.append (List.Sublist.refl _)
  · intro block hmem
    rcases Array.mem_push.1 hmem with hold | rfl
    · exact h.wellFormed block hold
    · exact Block.wellFormed_of_plan id hplan
  · intro block hmem
    rcases Array.mem_push.1 hmem with hold | rfl
    · exact h.sized block hold
    · exact ⟨h.objectSize_eq, hregion⟩

theorem reclaim (h : Sound config drawn pool) : Sound config drawn pool.reclaim := by
  refine ⟨h.objectSize_eq, h.blockBytes_eq, ?_, ?_, ?_⟩
  · rw [ids_reclaim]
    exact h.ids_sublist
  · intro block hmem
    rcases Array.mem_map.1 hmem with ⟨old, hold, rfl⟩
    exact (h.wellFormed old hold).reclaim
  · intro block hmem
    rcases Array.mem_map.1 hmem with ⟨old, hold, rfl⟩
    exact h.sized old hold

/-- Every step keeps a pool sound, whatever addresses it is given. -/
theorem step {event : Event} (h : Sound config drawn pool) (hvalid : config.validate = .ok ())
    (hascending : Ascending (drawn ++ more)) (hstep : Step pool more event after) :
    Sound config (drawn ++ more) after := by
  have hdistinct : (drawn ++ more).Nodup := hascending.nodup
  have hids : pool.ids.Nodup := (h.ids_sublist.trans (List.sublist_append_left _ _)).nodup hdistinct
  cases hstep with
  | taken hindex hblock hnext => exact (h.takeAt hids hblock).mono
  | @grew id _ hindex hplan =>
      have hgrown := h.grown hvalid id hplan
      exact hgrown.takeAt (hgrown.ids_sublist.nodup hdistinct) Array.getElem?_push_size
  | stuck hindex hmax => exact { h.mono with }
  | freed hblock hcontains hpasses =>
      have hmem := Array.mem_of_getElem? hblock
      have hpush := (h.wellFormed _ hmem).pushFree (Block.contains_iff.1 hcontains).2
      exact (h.revise hids hblock (Block.pushFree_id · _) hpush ⟨rfl, rfl⟩).mono
  | refused hrefusal => exact h.mono
  | reclaimed => exact h.reclaim.mono
  | @written address bytes index start stop block hblock hrange =>
      have hmem := Array.mem_of_getElem? hblock
      have hover := (h.wellFormed _ hmem).overwrite start bytes
      exact (h.revise hids hblock (Block.overwrite_id · start bytes) hover ⟨rfl, rfl⟩).mono
  | unwritten => exact h.mono
  | read => exact h.mono
  | contains => exact h.mono
  | blockIndex => exact h.mono
  | elsewhere => exact h.mono

end Sound

/-- However a pool is used, it stays sound. -/
theorem Reached.sound (h : Reached memory config drawn events pool) : Sound config drawn pool := by
  induction h with
  | created _ _ hcreate => exact Sound.of_create hcreate
  | acted hreached _ hascending hact ih =>
      exact ih.step hreached.valid hascending (step_of_act hact)

/-- The blocks of a pool have distinct identities. -/
theorem Reached.nodup_ids (h : Reached memory config drawn events pool) : pool.ids.Nodup :=
  h.sound.ids_sublist.nodup h.ascending.nodup

end SlotPool.Pool
