import SlotPool.Pool.Stats
import SlotPool.Proofs.Pool.Footprint
import SlotPool.Proofs.TypedPool.Returns

/-!
# What a failed store leaves behind

A store that fails for want of memory may leave a larger array of references behind: the array was
granted, and the block was not.  The sizes of the pool show it, but no later operation does, unless
the system would by then refuse that array.  A store that is handed a misplaced address is not
undone either: it reports the address, but has taken it off the free stack.

Main definitions:

- `TypedPool.SameOrDoubled`: two typed pools that differ at most in a doubled array of references.
- `TypedPool.Unserved`: what a store does that is handed nothing.

Main results:

- Theorem `TypedPool.gives_history_iff`: an array doubled ahead of time goes unnoticed.
- Theorem `TypedPool.store_failure`: all that a failed store does.
- Theorem `TypedPool.store_not_undone`: failed stores that can be noticed.
-/

namespace SlotPool.TypedPool

open Fresh

variable {memory birth past : Memory} {layout : Layout} {config : Config}
variable {drawn more own ids : List BlockId}
variable {events : List (Event layout)} {later : List Pool.Event}
variable {start typed after ahead : TypedPool layout} {address : Address} {record : Record layout}
variable {actions : List (Action layout)}

/-! ## An array doubled ahead of time -/

/-- A typed pool with an array of references of another capacity. -/
def withCapacity (typed : TypedPool layout) (maxBlocks : Nat) : TypedPool layout :=
  ⟨typed.pool.withCapacity maxBlocks⟩

/-- All but storing takes no notice of the array of references. -/
theorem act_withCapacity {action : Action layout} (hother : ∀ record, action ≠ .store record)
    (typed : TypedPool layout) (maxBlocks : Nat) :
    (typed.withCapacity maxBlocks).act memory action =
      (typed.act memory action).bind fun given =>
        .done (given.1, given.2.withCapacity maxBlocks) := by
  cases action with
  | store record => exact absurd rfl (hother record)
  | get target => rfl
  | set target record =>
      simp only [act, set, withCapacity, Pool.write_withCapacity]
      rfl
  | free check target =>
      simp only [act, free, withCapacity, Pool.free_withCapacity]
      rfl
  | reclaim => rfl
  | elsewhere => rfl

/-- All but storing keeps the array of references, and the number of blocks in it. -/
theorem act_frame {action : Action layout} {answer : Answer layout}
    (hother : ∀ record, action ≠ .store record)
    (hact : (typed.act memory action).Gives own (answer, after)) :
    after.pool.blocks.size = typed.pool.blocks.size ∧
      after.pool.maxBlocks = typed.pool.maxBlocks := by
  cases action with
  | store record => exact absurd rfl (hother record)
  | get target =>
      rcases Prod.mk.inj hact.2 with ⟨-, rfl⟩
      exact ⟨rfl, rfl⟩
  | set target record =>
      rcases Prod.mk.inj hact.2 with ⟨-, rfl⟩
      exact Pool.write_frame _ _ _
  | free check target =>
      rcases Prod.mk.inj hact.2 with ⟨-, rfl⟩
      exact Pool.free_frame _ _ _
  | reclaim =>
      rcases Prod.mk.inj hact.2 with ⟨-, rfl⟩
      exact ⟨Array.size_map, rfl⟩
  | elsewhere =>
      rcases gives_draw_iff.1 hact with ⟨id, rest, -, -, heq⟩
      rcases Prod.mk.inj heq with ⟨-, rfl⟩
      exact ⟨rfl, rfl⟩

section Room

variable {index : Nat}

/-- Nor does storing, as long as a block has room. -/
theorem store_withCapacity (hindex : typed.pool.roomIndex? = some index) (record : Record layout)
    (maxBlocks : Nat) :
    (typed.withCapacity maxBlocks).store memory record =
      (typed.store memory record).bind fun given =>
        .done (given.1, given.2.withCapacity maxBlocks) := by
  rcases Pool.hasRoom_of_roomIndex? hindex with ⟨block, hblock, hroom⟩
  rcases Block.hasRoom_iff_exists.1 hroom with ⟨offset, hnext⟩
  have hindex' : (typed.pool.withCapacity maxBlocks).roomIndex? = some index := hindex
  have hblock' : (typed.pool.withCapacity maxBlocks).blocks[index]? = some block := hblock
  have htake : (typed.pool.withCapacity maxBlocks).takeAt index =
      (typed.pool.takeAt index).withCapacity maxBlocks := rfl
  simp only [store, withCapacity, Pool.allocate, hindex, hindex', Pool.takeFrom_eq hblock hnext,
    Pool.takeFrom_eq hblock' hnext, done_bind, htake, Pool.write_withCapacity]
  rcases (typed.pool.takeAt index).write (block.addressAt offset) record.encode with
    ⟨written, pool⟩
  cases written with
  | true => rfl
  | false => rfl

theorem store_frame {result : Except Fault Address} (hindex : typed.pool.roomIndex? = some index)
    (hstore : (typed.store memory record).Gives own (result, after)) :
    after.pool.blocks.size = typed.pool.blocks.size ∧
      after.pool.maxBlocks = typed.pool.maxBlocks := by
  rcases Pool.hasRoom_of_roomIndex? hindex with ⟨block, hblock, hroom⟩
  rcases Block.hasRoom_iff_exists.1 hroom with ⟨offset, hnext⟩
  have htaken : (typed.pool.takeAt index).blocks.size = typed.pool.blocks.size :=
    Array.size_modify
  have hframe := Pool.write_frame (typed.pool.takeAt index) (block.addressAt offset) record.encode
  rw [htaken] at hframe
  simp only [store, Pool.allocate, hindex, Pool.takeFrom_eq hblock hnext, done_bind] at hstore
  rcases hwrite : (typed.pool.takeAt index).write (block.addressAt offset) record.encode with
    ⟨written, pool⟩
  rw [hwrite] at hframe
  cases written with
  | true =>
      simp only [hwrite] at hstore
      rcases Prod.mk.inj hstore.2 with ⟨-, rfl⟩
      exact hframe
  | false =>
      simp only [hwrite] at hstore
      rcases Prod.mk.inj hstore.2 with ⟨-, rfl⟩
      exact hframe

end Room

/-- The array of references of a typed pool may have been doubled ahead of time. -/
def SameOrDoubled (typed ahead : TypedPool layout) : Prop :=
  ahead = typed ∨ Pool.Doubled typed.pool ahead.pool

/-- If the array of references was doubled ahead of time, then the system would always grant it. -/
def AheadAtMost (memory : Memory) (typed ahead : TypedPool layout) : Prop :=
  ahead = typed ∨ Pool.Doubled typed.pool ahead.pool ∧ memory.Always typed.pool.doubledBytes

/-- What adds no block leaves the array ahead of its time. -/
theorem aheadAtMost_of_frame (h : Pool.Doubled typed.pool ahead.pool)
    (hgranted : memory.Always typed.pool.doubledBytes)
    (hframe : after.pool.blocks.size = typed.pool.blocks.size ∧
      after.pool.maxBlocks = typed.pool.maxBlocks) :
    AheadAtMost memory after (after.withCapacity (typed.pool.maxBlocks * 2)) := by
  have hbytes : after.pool.doubledBytes = typed.pool.doubledBytes := by
    rw [Pool.doubledBytes, Pool.doubledBytes, hframe.2]
  rw [← hbytes] at hgranted
  exact Or.inr ⟨h.of_frame hframe, hgranted⟩

/-- Whatever is done next, an array that was doubled ahead of time changes no answer, and is at most
ahead of its time afterwards. -/
theorem AheadAtMost.act (h : AheadAtMost memory typed ahead) (action : Action layout) :
    ∃ change : TypedPool layout → TypedPool layout,
      ahead.act memory.first action =
        ((typed.act memory.first action).bind fun given => .done (given.1, change given.2)) ∧
      ∀ own answer after, (typed.act memory.first action).Gives own (answer, after) →
        AheadAtMost memory.rest after (change after) := by
  rcases h with rfl | ⟨h, hgranted⟩
  · exact ⟨id, (bind_done _).symm, fun _ _ _ _ => Or.inl rfl⟩
  · have hahead : ahead = typed.withCapacity (typed.pool.maxBlocks * 2) := congrArg mk h.eq
    by_cases hstore : ∃ record, action = .store record
    · rcases hstore with ⟨record, rfl⟩
      cases hindex : typed.pool.roomIndex? with
      | some index =>
          refine ⟨(withCapacity · (typed.pool.maxBlocks * 2)), ?_, ?_⟩
          · simp only [hahead, TypedPool.act, store_withCapacity hindex, bind_bind, done_bind]
          · intro own answer after hact
            rcases gives_act_store_iff.1 hact with ⟨result, -, hgiven⟩
            exact aheadAtMost_of_frame h hgranted.rest (store_frame hindex hgiven)
      | none =>
          have hindex' : ahead.pool.roomIndex? = none := by
            rw [hahead]
            exact hindex
          have hsame : ahead.store memory.first record = typed.store memory.first record := by
            simp only [store, Pool.allocate, hindex, hindex', h.grow_eq hgranted.first.first.grants]
          refine ⟨id, ?_, fun _ _ _ _ => Or.inl rfl⟩
          rw [TypedPool.act, hsame]
          exact (bind_done _).symm
    · have hother : ∀ record, action ≠ .store record := fun record heq => hstore ⟨record, heq⟩
      refine ⟨(withCapacity · (typed.pool.maxBlocks * 2)), ?_, ?_⟩
      · rw [hahead, act_withCapacity hother]
      · intro own answer after hact
        exact aheadAtMost_of_frame h hgranted.rest (act_frame hother hact)

/-- An array that was doubled ahead of time is never noticed. -/
theorem gives_history_iff (h : AheadAtMost memory typed ahead) :
    (∃ last, (ahead.history memory actions).Gives ids (events, last)) ↔
      ∃ last, (typed.history memory actions).Gives ids (events, last) := by
  induction actions generalizing memory typed ahead ids events with
  | nil =>
      constructor
      · rintro ⟨last, hids, heq⟩
        rcases Prod.mk.inj heq with ⟨rfl, -⟩
        exact ⟨typed, hids, rfl⟩
      · rintro ⟨last, hids, heq⟩
        rcases Prod.mk.inj heq with ⟨rfl, -⟩
        exact ⟨ahead, hids, rfl⟩
  | cons action actions ih =>
      rcases h.act action with ⟨change, hahead, hchange⟩
      constructor
      · rintro ⟨last, hhistory⟩
        rcases gives_history_cons_iff.1 hhistory with
          ⟨own, rest, answer, middle, others, rfl, hact, hrest, rfl⟩
        rw [hahead] at hact
        rcases gives_bind_iff.1 hact with ⟨own, none, ⟨given, after⟩, rfl, hgiven, hnone, heq⟩
        rcases Prod.mk.inj heq with ⟨rfl, rfl⟩
        rcases (ih (hchange _ _ _ hgiven)).1 ⟨last, hrest⟩ with ⟨last', hrest'⟩
        refine ⟨last', gives_history_cons_iff.2
          ⟨own, rest, given, after, others, ?_, hgiven, hrest', rfl⟩⟩
        rw [hnone, List.append_nil]
      · rintro ⟨last, hhistory⟩
        rcases gives_history_cons_iff.1 hhistory with
          ⟨own, rest, answer, middle, others, rfl, hact, hrest, rfl⟩
        rcases (ih (hchange _ _ _ hact)).2 ⟨last, hrest⟩ with ⟨last', hrest'⟩
        refine ⟨last', gives_history_cons_iff.2
          ⟨own, rest, answer, change middle, others, rfl, ?_, hrest', rfl⟩⟩
        rw [hahead]
        exact gives_bind_iff.2 ⟨own, [], _, (List.append_nil own).symm, hact, rfl, rfl⟩

/-! ## Stores that fail -/

/-- A store failed for want of memory.  All that it may leave behind is an array of references that
was doubled. -/
structure Unserved (typed : TypedPool layout) (fault : Fault) (after : TypedPool layout) :
    Prop where
  outOfMemory : ∃ bytes, fault = .outOfMemory bytes
  sameOrDoubled : SameOrDoubled typed after
  /-- The array shows in the sizes of the pool: it has twice the capacity, and takes up so much more
  memory. -/
  stats : after.pool.stats = typed.pool.stats ∨
    typed.pool.blockCount = typed.pool.maxBlocks ∧
      after.pool.stats =
        { typed.pool.stats with
          maxBlocks := typed.pool.maxBlocks * 2
          footprint := typed.pool.footprint + typed.pool.maxBlocks * Memory.blockHeaderBytes }
  /-- It goes unnoticed later on, as long as the system would grant it. -/
  unnoticed : ∀ future : Memory, after = typed ∨ future.Always typed.pool.doubledBytes →
    ∀ actions ids events, (∃ last, (after.history future actions).Gives ids (events, last)) ↔
      ∃ last, (typed.history future actions).Gives ids (events, last)

/-- An array that was doubled ahead of time takes up more memory than before by what it was. -/
theorem footprint_of_doubled {pool roomy : Pool} (h : Pool.Doubled pool roomy) :
    roomy.footprint = pool.footprint + pool.maxBlocks * Memory.blockHeaderBytes := by
  have hfull := h.full
  have hspare : pool.maxBlocks * 2 - pool.maxBlocks = pool.maxBlocks := by omega
  have htotal : (pool.withCapacity (pool.maxBlocks * 2)).total Block.footprint =
      pool.total Block.footprint := rfl
  rw [h.eq, Pool.footprint, Pool.footprint, htotal]
  simp only [Pool.withCapacity, hfull, hspare, Nat.sub_self, Nat.zero_mul]
  omega

theorem unserved_of_allocate {fault : Fault} (h : Pool.Reached past config drawn later typed.pool)
    (hallocate : (typed.pool.allocate memory).Gives own (.error fault, after.pool)) :
    own = [] ∧ Unserved typed fault after := by
  rcases Pool.allocate_error_cases h.plan_eq_ok hallocate with ⟨rfl, -, hfault, hsame | hdoubled⟩
  · have heq : after = typed := congrArg mk hsame
    rw [heq]
    exact ⟨rfl, hfault, Or.inl rfl, Or.inl rfl, fun _ _ _ _ _ => Iff.rfl⟩
  · have hfootprint := footprint_of_doubled hdoubled
    refine ⟨rfl, hfault, Or.inr hdoubled, Or.inr ⟨hdoubled.full, ?_⟩, ?_⟩
    · rw [Pool.stats, hfootprint, hdoubled.eq]
      rfl
    · rintro future (rfl | hgranted) actions ids events
      · rfl
      · exact gives_history_iff (Or.inr ⟨hdoubled, hgranted⟩)

theorem freeDepth_stats (pool : Pool) : pool.stats.freeDepth = pool.total Block.freeDepth := by
  simp only [Pool.stats, Pool.Stats.freeDepth, Pool.total, ← Array.foldr_toList, Array.toList_map,
    List.foldr_map, Block.stats]

/-- An address that was dropped is missing from the free stacks. -/
theorem Dropped.freeDepth_eq (h : Dropped typed address after) :
    typed.pool.stats.freeDepth = after.pool.stats.freeDepth + 1 := by
  rcases h.popped with ⟨index, block, rest, hblock, -, -, hstack, hafter⟩
  have htotal : (typed.pool.revise index ({ · with freeStack := rest })).total Block.freeDepth +
      block.freeDepth = typed.pool.total Block.freeDepth + rest.size :=
    Pool.total_revise hblock _
  have hafter' : after.pool.total Block.freeDepth =
      (typed.pool.revise index ({ · with freeStack := rest })).total Block.freeDepth := by
    rw [hafter]
    rfl
  have hdepth : block.freeDepth = rest.size + 1 := by
    rw [Block.freeDepth, hstack, Array.size_push]
  rw [freeDepth_stats, freeDepth_stats, hafter']
  omega

/-- A store that fails draws no identity, whatever the system answered before and answers now.
Either memory is wanting, and nobody can tell afterwards but by the capacity of the array of
references; or the store was handed an address at which no slot starts, which the quick check let
pass since the last reclaim, and which is now missing from its free stack.  The latter cannot be as
long as the quick check is given only slots and foreign addresses. -/
theorem store_failure {fault : Fault}
    (hcreate : (create birth layout config).Gives drawn (.ok start))
    (hhistory : (start.history past actions).Gives more (events, typed))
    (hascending : Ascending (drawn ++ more ++ own))
    (hstore : (typed.store memory record).Gives own (.error fault, after)) :
    own = [] ∧
    (Unserved typed fault after ∨
      ∃ address, fault = .invalidFree address ∧ FreedSince events address ∧
        Dropped typed address after ∧
        typed.pool.stats.freeDepth = after.pool.stats.freeDepth + 1) ∧
    (AimedAtSlots past start more actions → Unserved typed fault after) := by
  have hsize := (pool_of_create hcreate).1
  have hnew := Pool.Reached.created (Memory.part_join_left birth past) hascending.left.left
    (pool_of_create hcreate).2
  have hpast := Memory.part_join_right birth past
  rcases realizes_history hnew hpast hascending.left hhistory with ⟨later, hreached, -⟩
  have htraced := (traced_of_create hcreate).history hnew hpast hsize hascending.left hhistory
  rw [List.nil_append] at htraced
  rcases store_error_cases hreached hsize hascending hstore with
    hallocate | ⟨rfl, address, rfl, hdropped⟩
  · rcases unserved_of_allocate hreached hallocate with ⟨rfl, hunserved⟩
    exact ⟨rfl, Or.inl hunserved, fun _ => hunserved⟩
  · have hfreed : FreedSince events address :=
      (htraced address hdropped.onFreeStack).resolve_left hdropped.misplaced
    refine ⟨rfl, Or.inr ⟨address, rfl, hfreed, hdropped, hdropped.freeDepth_eq⟩, fun haimed => ?_⟩
    rcases hfreed with ⟨earlier, since, rfl, -⟩
    exact absurd (dvd_of_freed haimed hhistory (by simp)) hdropped.misplaced

/-! ## Stores of a number -/

/-- One number of 64 bits. -/
def numberLayout : Layout := [8]

/-- A record of one number. -/
def number (value : Nat) : Record numberLayout :=
  .ofList numberLayout [value]

/-- A new pool of one block with a single number. -/
def numberPool : TypedPool numberLayout where
  pool := Pool.ofBlocks ⟨8, 1, 8⟩ #[.fresh ⟨1⟩ 8 8]

/-- A system that grants nothing. -/
def refusing : Memory :=
  .steady fun _ => false

/-- The only slot is taken. -/
def fullEvents : List (Event numberLayout) :=
  [⟨.store (number 7), .issued ⟨⟨1⟩, 0⟩⟩]

/-- The pool that this leaves. -/
def fullPool : TypedPool numberLayout :=
  ((numberPool.history .ample (fullEvents.map Event.action)).runFrom 2).1.2

/-- The same pool after a store for which the array of references was granted, but not the block. -/
def roomyPool : TypedPool numberLayout :=
  ((fullPool.store (.join .ample refusing) (number 9)).runFrom 2).1.2

/-- The only slot is taken, and a place in the middle of it is freed. -/
def misplacedEvents : List (Event numberLayout) :=
  [⟨.store (number 7), .issued ⟨⟨1⟩, 0⟩⟩, ⟨.free .quick ⟨⟨1⟩, 3⟩, .done⟩]

/-- The pool that these events leave. -/
def misplacedPool : TypedPool numberLayout :=
  ((numberPool.history .ample (misplacedEvents.map Event.action)).runFrom 2).1.2

/-- The same pool after a store that was refused. -/
def droppedPool : TypedPool numberLayout :=
  ((misplacedPool.store .ample (number 9)).runFrom 2).1.2

theorem gives_numberPool :
    (create .ample numberLayout ⟨8, 1, 8⟩).Gives [⟨1⟩] (.ok numberPool) :=
  gives_runFrom (create .ample numberLayout ⟨8, 1, 8⟩) 1

theorem gives_fullPool :
    (numberPool.history .ample (fullEvents.map Event.action)).Gives [] (fullEvents, fullPool) := by
  have hrun : (numberPool.history .ample (fullEvents.map Event.action)).runFrom 2 =
      ((fullEvents, fullPool), 2) := by
    with_unfolding_all rfl
  exact gives_of_runFrom hrun

theorem gives_roomyPool :
    (fullPool.store (.join .ample refusing) (number 9)).Gives []
      (.error (.outOfMemory 8), roomyPool) := by
  have hrun : (fullPool.store (.join .ample refusing) (number 9)).runFrom 2 =
      ((.error (.outOfMemory 8), roomyPool), 2) := by
    with_unfolding_all rfl
  exact gives_of_runFrom hrun

theorem gives_misplacedPool :
    (numberPool.history .ample (misplacedEvents.map Event.action)).Gives []
      (misplacedEvents, misplacedPool) := by
  have hrun : (numberPool.history .ample (misplacedEvents.map Event.action)).runFrom 2 =
      ((misplacedEvents, misplacedPool), 2) := by
    with_unfolding_all rfl
  exact gives_of_runFrom hrun

theorem gives_droppedPool :
    (misplacedPool.store .ample (number 9)).Gives []
      (.error (.invalidFree ⟨⟨1⟩, 3⟩), droppedPool) := by
  have hrun : (misplacedPool.store .ample (number 9)).runFrom 2 =
      ((.error (.invalidFree ⟨⟨1⟩, 3⟩), droppedPool), 2) := by
    with_unfolding_all rfl
  exact gives_of_runFrom hrun

/-- A store into a full pool is refused for want of memory; the one after a misplaced address was
freed is refused for that address. -/
theorem store_failure_misplacedPool :
    (create .ample numberLayout ⟨8, 1, 8⟩).Gives [⟨1⟩] (.ok numberPool) ∧
      (numberPool.history .ample (fullEvents.map Event.action)).Gives [] (fullEvents, fullPool) ∧
      (fullPool.store (.join .ample refusing) (number 9)).Gives []
        (.error (.outOfMemory 8), roomyPool) ∧
      Unserved fullPool (.outOfMemory 8) roomyPool ∧
      (numberPool.history .ample (misplacedEvents.map Event.action)).Gives []
        (misplacedEvents, misplacedPool) ∧
      (misplacedPool.store .ample (number 9)).Gives []
        (.error (.invalidFree ⟨⟨1⟩, 3⟩), droppedPool) ∧
      FreedSince misplacedEvents ⟨⟨1⟩, 3⟩ ∧ Dropped misplacedPool ⟨⟨1⟩, 3⟩ droppedPool := by
  have haimed : AimedAtSlots .ample numberPool [] (fullEvents.map Event.action) := by
    apply aimedAtSlots_of_dvd
    intro address hmem
    simp [fullEvents] at hmem
  have hunserved := (store_failure gives_numberPool gives_fullPool (by decide) gives_roomyPool).2.2
    haimed
  have hfailure := store_failure gives_numberPool gives_misplacedPool (by decide) gives_droppedPool
  refine ⟨gives_numberPool, gives_fullPool, gives_roomyPool, hunserved, gives_misplacedPool,
    gives_droppedPool, ?_⟩
  rcases hfailure.2.1 with hunserved | ⟨address, heq, hfreed, hdropped, -⟩
  · rcases hunserved.outOfMemory with ⟨bytes, heq⟩
    contradiction
  · rcases Fault.invalidFree.inj heq with rfl
    exact ⟨hfreed, hdropped⟩

/-- Failed stores that can be noticed.  After the one for which the array of references was granted,
but not the block, that array is larger; and where the system would refuse it now, a store is served
that would have been refused.  After the one for a misplaced address, an entry is missing from the
free stack; and a store that would have been refused for that address is served from a new block. -/
theorem store_not_undone :
    (create .ample numberLayout ⟨8, 1, 8⟩).Gives [⟨1⟩] (.ok numberPool) ∧
      (numberPool.history .ample (fullEvents.map Event.action)).Gives [] (fullEvents, fullPool) ∧
      (fullPool.store (.join .ample refusing) (number 9)).Gives []
        (.error (.outOfMemory 8), roomyPool) ∧
      fullPool.pool.stats.maxBlocks = 1 ∧ roomyPool.pool.stats.maxBlocks = 2 ∧
      fullPool.pool.stats.footprint = 132 ∧ roomyPool.pool.stats.footprint = 196 ∧
      ((fullPool.store (.join refusing .ample) (number 9)).runFrom 2).1.1 =
        .error (.outOfMemory 128) ∧
      ((roomyPool.store (.join refusing .ample) (number 9)).runFrom 2).1.1 = .ok ⟨⟨2⟩, 0⟩ ∧
      (numberPool.history .ample (misplacedEvents.map Event.action)).Gives []
        (misplacedEvents, misplacedPool) ∧
      (misplacedPool.store .ample (number 9)).Gives []
        (.error (.invalidFree ⟨⟨1⟩, 3⟩), droppedPool) ∧
      misplacedPool.pool.stats.freeDepth = 1 ∧ droppedPool.pool.stats.freeDepth = 0 ∧
      ((misplacedPool.store .ample (number 9)).runFrom 2).1.1 =
        .error (.invalidFree ⟨⟨1⟩, 3⟩) ∧
      ((droppedPool.store .ample (number 9)).runFrom 2).1.1 = .ok ⟨⟨2⟩, 0⟩ := by
  refine ⟨gives_numberPool, gives_fullPool, gives_roomyPool, ?_, ?_, ?_, ?_, ?_, ?_,
    gives_misplacedPool, gives_droppedPool, ?_, ?_, ?_, ?_⟩ <;> with_unfolding_all rfl

end SlotPool.TypedPool
