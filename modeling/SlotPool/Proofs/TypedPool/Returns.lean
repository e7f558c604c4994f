import SlotPool.Proofs.Pool.FreeStacks
import SlotPool.Proofs.Pool.Growth
import SlotPool.Proofs.TypedPool.Values

/-!
# Which stores fail

A typed pool that gets the memory it asks for fails to store a record only if it is handed a place
at which no slot starts.  Such a place was freed before, under the quick check, and no reclaim came
in between.  So no store fails as long as the quick check is given only places of slots, however
often, and addresses that are foreign to the pool; the thorough check can be given any addresses.

Main definitions:

- `TypedPool.FreedSince`: an address was freed under the quick check since the last reclaim.
- `TypedPool.Dropped`: what a store does that is handed a place at which no slot starts.
- `TypedPool.AimedAtSlots`: what the quick check is given in a history.

Main results:

- Theorem `TypedPool.store_error_cases`: why a store fails.
- Theorem `TypedPool.Traced.history`: every place on a free stack at which no slot starts was freed
  under the quick check.
- Theorem `TypedPool.stores_served`: which stores fail, and which cannot.
-/

namespace SlotPool.TypedPool

open Fresh

variable {memory part birth past : Memory} {layout : Layout} {config : Config}
variable {drawn more own : List BlockId}
variable {earlier events before others : List (Event layout)} {later : List Pool.Event}
variable {start typed after : TypedPool layout} {address : Address} {record : Record layout}
variable {action : Action layout} {actions : List (Action layout)} {answer : Answer layout}

/-! ## Histories and their moments -/

/-- A history is the first action and its answer, and the history of the others on the pool that the
first leaves. -/
theorem gives_history_cons_iff :
    (typed.history memory (action :: actions)).Gives drawn (events, after) ↔
      ∃ own rest answer middle others, drawn = own ++ rest ∧
        (typed.act memory.first action).Gives own (answer, middle) ∧
        (middle.history memory.rest actions).Gives rest (others, after) ∧
        events = ⟨action, answer⟩ :: others := by
  rw [history, gives_bind_iff]
  constructor
  · rintro ⟨own, rest, ⟨answer, middle⟩, rfl, hact, htail⟩
    rcases gives_bind_iff.1 htail with ⟨rest, none, ⟨others, last⟩, rfl, hrest, hdone⟩
    simp only [gives_done_iff, Prod.mk.injEq] at hdone
    rcases hdone with ⟨rfl, rfl, rfl⟩
    exact ⟨own, rest, answer, middle, others, by rw [List.append_nil], hact, hrest, rfl⟩
  · rintro ⟨own, rest, answer, middle, others, rfl, hact, hrest, rfl⟩
    exact ⟨own, rest, (answer, middle), rfl, hact,
      gives_bind_iff.2 ⟨rest, [], (others, after), (List.append_nil rest).symm, hrest, rfl, rfl⟩⟩

/-- Every event of a history has its moment: the pool that the events before it leave. -/
theorem exists_moment {event : Event layout}
    (hhistory : (start.history memory actions).Gives more (before ++ event :: others, typed)) :
    ∃ firsts rest own given future middle next, actions = firsts ++ event.action :: rest ∧
      more = own ++ (given ++ future) ∧ (start.history memory firsts).Gives own (before, middle) ∧
      (middle.act (memory.turn firsts.length) event.action).Gives given (event.answer, next) ∧
      (next.history (memory.after (firsts.length + 1)) rest).Gives future (others, typed) := by
  induction before generalizing memory start actions more with
  | nil =>
      cases actions with
      | nil => simp [history] at hhistory
      | cons action actions =>
          rcases gives_history_cons_iff.1 hhistory with
            ⟨given, future, answer, next, tail, rfl, hact, hrest, heq⟩
          rcases List.cons.inj heq with ⟨rfl, rfl⟩
          exact ⟨[], actions, [], given, future, start, next, rfl, rfl, ⟨rfl, rfl⟩, hact, hrest⟩
  | cons first before ih =>
      cases actions with
      | nil => simp [history] at hhistory
      | cons action actions =>
          rcases gives_history_cons_iff.1 hhistory with
            ⟨mine, tail, answer, second, tailEvents, rfl, hact, hrest, heq⟩
          rcases List.cons.inj heq with ⟨rfl, rfl⟩
          rcases ih hrest with
            ⟨firsts, rest, own, given, future, middle, next, rfl, rfl, hfirsts, hevent, hfuture⟩
          refine ⟨action :: firsts, rest, mine ++ own, given, future, middle, next, rfl, ?_, ?_,
            hevent, hfuture⟩
          · rw [List.append_assoc]
          · exact gives_history_cons_iff.2
              ⟨mine, own, answer, second, before, rfl, hact, hfirsts, rfl⟩

theorem gives_act_store_iff :
    (typed.act memory (.store record)).Gives own (answer, after) ↔
      ∃ result, answer = .ofStore result ∧
        (typed.store memory record).Gives own (result, after) := by
  constructor
  · intro hact
    rcases gives_bind_iff.1 hact with ⟨own, rest, ⟨result, middle⟩, rfl, hstore, hdone⟩
    simp only [gives_done_iff, Prod.mk.injEq] at hdone
    rcases hdone with ⟨rfl, rfl, rfl⟩
    rw [List.append_nil]
    exact ⟨result, rfl, hstore⟩
  · rintro ⟨result, rfl, hstore⟩
    exact gives_bind_iff.2 ⟨own, [], (result, after), (List.append_nil own).symm, hstore, rfl, rfl⟩

/-! ## Steps of the pool -/

/-- What an action does with the pool of a typed pool in the first place. -/
def Action.onPool : Action layout → Pool.Action
  | .store _ => .allocate
  | .get address => .read address
  | .set address record => .write address record.encode
  | .free check address => .free check address
  | .reclaim => .reclaim
  | .elsewhere => .elsewhere

theorem Action.onPool_eq_free_iff {check : FreeCheck} :
    action.onPool = .free check address ↔ action = .free check address := by
  cases action <;> simp [onPool]

/-- An action is one step of the pool, and one more if it stores a record in a slot handed out. -/
theorem exists_steps_of_act (hact : (typed.act memory action).Gives own (answer, after)) :
    ∃ given middle, typed.pool.Step own ⟨action.onPool, given⟩ middle ∧
      (middle = after.pool ∨
        ∃ target bytes, middle.Step [] ⟨.write target bytes, .truth true⟩ after.pool) ∧
      ∀ check address, action = .free check address → given = .done → answer = .done := by
  cases action with
  | store record =>
      rcases gives_act_store_iff.1 hact with ⟨result, -, hstore⟩
      have hstep {issued : Except Fault Address} {pool : Pool}
          (hallocate : (typed.pool.allocate memory).Gives own (issued, pool)) :=
        Pool.step_of_act (Pool.gives_act_allocate_iff.2 ⟨issued, rfl, hallocate⟩)
      rcases store_cases hstore with ⟨target, pool, -, hallocate, hwrite⟩ | ⟨fault, -, hallocate⟩ |
        ⟨target, -, hallocate, -⟩
      · have hwritten : (pool.act memory (.write target record.encode)).Gives []
            (.truth true, after.pool) := by
          rw [Pool.act_write_eq hwrite]
          exact ⟨rfl, rfl⟩
        exact ⟨_, pool, hstep hallocate, Or.inr ⟨target, _, Pool.step_of_act hwritten⟩,
          fun _ _ heq => by contradiction⟩
      · exact ⟨_, _, hstep hallocate, Or.inl rfl, fun _ _ heq => by contradiction⟩
      · exact ⟨_, _, hstep hallocate, Or.inl rfl, fun _ _ heq => by contradiction⟩
  | get target =>
      simp only [act, gives_done_iff, Prod.mk.injEq] at hact
      rcases hact with ⟨rfl, -, rfl⟩
      exact ⟨_, _, .read, Or.inl rfl, fun _ _ heq => by contradiction⟩
  | set target record =>
      rcases hwrite : typed.pool.write target record.encode with ⟨written, pool⟩
      simp only [act, set, hwrite, gives_done_iff, Prod.map_apply, id_eq, Prod.mk.injEq] at hact
      rcases hact with ⟨rfl, -, rfl⟩
      have hwritten : (typed.pool.act memory (.write target record.encode)).Gives []
          (.truth written, pool) := by
        rw [Pool.act_write_eq hwrite]
        exact ⟨rfl, rfl⟩
      exact ⟨_, _, Pool.step_of_act hwritten, Or.inl rfl, fun _ _ heq => by contradiction⟩
  | free check target =>
      rcases hfree : typed.pool.free check target with ⟨result, pool⟩
      simp only [act, free, hfree, gives_done_iff, Prod.map_apply, id_eq, Prod.mk.injEq] at hact
      rcases hact with ⟨rfl, rfl, rfl⟩
      have hfreed : (typed.pool.act memory (.free check target)).Gives []
          (.ofFree result, pool) := by
        rw [Pool.act_free_eq hfree]
        exact ⟨rfl, rfl⟩
      refine ⟨_, _, Pool.step_of_act hfreed, Or.inl rfl, fun _ _ _ hdone => ?_⟩
      cases result with
      | ok _ => rfl
      | error fault => contradiction
  | reclaim =>
      simp only [act, gives_done_iff, Prod.mk.injEq] at hact
      rcases hact with ⟨rfl, -, rfl⟩
      exact ⟨_, _, .reclaimed, Or.inl rfl, fun _ _ heq => by contradiction⟩
  | elsewhere =>
      rcases gives_draw_iff.1 hact with ⟨id, rest, rfl, rfl, hdone⟩
      rcases Prod.mk.inj hdone with ⟨-, rfl⟩
      exact ⟨_, _, .elsewhere, Or.inl rfl, fun _ _ heq => by contradiction⟩

/-- A typed pool never loses a block. -/
theorem size_le_of_act (hact : (typed.act memory action).Gives own (answer, after)) :
    typed.pool.blocks.size ≤ after.pool.blocks.size := by
  rw [← Pool.length_ids, ← Pool.length_ids]
  rcases exists_steps_of_act hact with ⟨given, middle, hfirst, hsecond, -⟩
  have hmiddle := hfirst.ids_prefix.length_le
  rcases hsecond with rfl | ⟨target, bytes, hsecond⟩
  · exact hmiddle
  · exact Nat.le_trans hmiddle hsecond.ids_prefix.length_le

theorem size_le_of_history (hhistory : (start.history memory actions).Gives more (events, typed)) :
    start.pool.blocks.size ≤ typed.pool.blocks.size := by
  induction actions generalizing memory start more events with
  | nil =>
      rcases hhistory with ⟨-, heq⟩
      rcases Prod.mk.inj heq with ⟨-, rfl⟩
      exact Nat.le_refl _
  | cons action actions ih =>
      rcases gives_history_cons_iff.1 hhistory with ⟨_, _, _, _, _, -, hact, hrest, -⟩
      exact Nat.le_trans (size_le_of_act hact) (ih hrest)

/-- After an action, an address on a free stack was there before, or its block just let it pass. -/
theorem onFreeStack_of_act (hact : (typed.act memory action).Gives own (answer, after))
    (h : after.pool.OnFreeStack address) :
    (typed.pool.OnFreeStack address ∧ action ≠ .reclaim) ∨
    (∃ check, ∃ block ∈ typed.pool.blocks, block.refusal? check address = none ∧
      action = .free check address ∧ answer = .done) := by
  rcases exists_steps_of_act hact with ⟨given, middle, hfirst, hsecond, hfree⟩
  have hmiddle : middle.OnFreeStack address := by
    rcases hsecond with rfl | ⟨target, bytes, hsecond⟩
    · exact h
    · rcases hsecond.onFreeStack_cases h with ⟨hold, -⟩ | ⟨check, block, -, -, heq⟩
      · exact hold
      · cases heq
  rcases hfirst.onFreeStack_cases hmiddle with ⟨hold, hne⟩ | ⟨check, block, hmem, hpasses, heq⟩
  · refine Or.inl ⟨hold, ?_⟩
    rintro rfl
    exact hne rfl
  · rcases Pool.Event.mk.inj heq with ⟨hpool, hdone⟩
    have haction := Action.onPool_eq_free_iff.1 hpool
    exact Or.inr ⟨check, block, hmem, hpasses, haction, hfree check address haction hdone⟩

/-! ## Where misplaced addresses come from -/

/-- An address was let pass by the quick check, and nothing was reclaimed since. -/
def FreedSince (events : List (Event layout)) (address : Address) : Prop :=
  ∃ earlier later, events = earlier ++ ⟨.free .quick address, .done⟩ :: later ∧
    ∀ event ∈ later, event.action ≠ .reclaim

theorem FreedSince.concat (h : FreedSince events address) (hne : action ≠ .reclaim)
    (answer : Answer layout) : FreedSince (events ++ [⟨action, answer⟩]) address := by
  rcases h with ⟨earlier, later, rfl, hlater⟩
  refine ⟨earlier, later ++ [⟨action, answer⟩], by simp, ?_⟩
  intro event hmem
  rcases List.mem_append.1 hmem with hold | hnew
  · exact hlater event hold
  · rw [List.mem_singleton.1 hnew]
    exact hne

/-- Every address on a free stack at which no slot starts was freed under the quick check since the
last reclaim. -/
def Traced (typed : TypedPool layout) (events : List (Event layout)) : Prop :=
  ∀ address, typed.pool.OnFreeStack address →
    layout.size ∣ address.offset.toNat ∨ FreedSince events address

theorem traced_of_create (hcreate : (create memory layout config).Gives drawn (.ok typed)) :
    Traced typed [] :=
  fun _ hstack => absurd hstack (Pool.not_onFreeStack_of_create (pool_of_create hcreate).2)

/-- One action keeps track of the addresses on free stacks. -/
theorem Traced.act (h : Traced typed earlier)
    (hsized : ∀ block ∈ typed.pool.blocks, block.objectSize = layout.size)
    (hact : (typed.act memory action).Gives own (answer, after)) :
    Traced after (earlier ++ [⟨action, answer⟩]) := by
  intro address hstack
  rcases onFreeStack_of_act hact hstack with ⟨hold, hne⟩ | ⟨check, block, hmem, hpasses, rfl, rfl⟩
  · exact (h address hold).imp id fun hfreed => hfreed.concat hne answer
  · cases check with
    | quick => exact Or.inr ⟨earlier, [], rfl, by simp⟩
    | thorough =>
        left
        rw [← hsized block hmem]
        exact Block.dvd_of_thorough hpasses

/-- So does every history. -/
theorem Traced.history (h : Traced typed earlier)
    (hreached : Pool.Reached memory config drawn later typed.pool) (hpart : memory.Part part)
    (hsize : config.objectSize = layout.size) (hascending : Ascending (drawn ++ more))
    (hhistory : (typed.history part actions).Gives more (events, after)) :
    Traced after (earlier ++ events) := by
  induction actions generalizing part typed drawn more earlier events later with
  | nil =>
      rcases hhistory with ⟨-, heq⟩
      rcases Prod.mk.inj heq with ⟨rfl, rfl⟩
      rw [List.append_nil]
      exact h
  | cons action actions ih =>
      rcases gives_history_cons_iff.1 hhistory with
        ⟨own, rest, answer, middle, others, rfl, hact, hrest, rfl⟩
      have hsized : ∀ block ∈ typed.pool.blocks, block.objectSize = layout.size := by
        intro block hmem
        rw [← hsize]
        exact (hreached.sound.sized block hmem).1
      rw [← List.append_assoc] at hascending
      rcases realizes_act hreached hpart.first hascending.left hact with ⟨first, hmiddle, -⟩
      rw [List.append_cons]
      exact ih (h.act hsized hact) hmiddle hpart.rest hascending hrest

/-! ## Stores that fail -/

/-- What a pool handed out can be written exactly if a slot starts there. -/
theorem fst_write_of_allocate {pool : Pool} (h : Pool.Reached past config drawn later typed.pool)
    (hascending : Ascending (drawn ++ own))
    (hallocate : (typed.pool.allocate memory).Gives own (.ok address, pool)) (bytes : List UInt8) :
    (pool.write address bytes).1 = true ↔ config.objectSize ∣ address.offset.toNat := by
  have hreached := h.allocated_join hascending hallocate
  rw [Pool.fst_write, hreached.sound.isSome_bytes?_iff hreached.nodup_ids]
  constructor
  · rintro ⟨block, -, -, -, hdvd⟩
    exact hdvd
  · intro hdvd
    have hindex := h.sound.blockIndex?_of_allocate h.valid hascending hallocate
    rcases Pool.contains_of_blockIndex? hindex with ⟨block, hblock, hcontains⟩
    rcases Block.contains_iff.1 hcontains with ⟨hid, hinside⟩
    exact ⟨block, Array.mem_of_getElem? hblock, hid, hinside, hdvd⟩

/-- A store was handed an address at which no slot starts.  The address was on top of the free stack
of a block whose cursor has passed all slots; now this entry is missing there, and that block is the
current one. -/
structure Dropped (typed : TypedPool layout) (address : Address) (after : TypedPool layout) :
    Prop where
  misplaced : ¬ layout.size ∣ address.offset.toNat
  popped : ∃ (index : Nat) (block : Block) (rest : Array UInt32),
    typed.pool.blocks[index]? = some block ∧ address.block = block.id ∧
      block.bumpCursor = block.regionBytes ∧ block.freeStack = rest.push address.offset ∧
      after.pool = { typed.pool.revise index ({ · with freeStack := rest }) with current := index }

theorem Dropped.onFreeStack (h : Dropped typed address after) : typed.pool.OnFreeStack address := by
  rcases h.popped with ⟨index, block, rest, hblock, hid, -, hstack, -⟩
  refine ⟨block, Array.mem_of_getElem? hblock, hid.symm, ?_⟩
  rw [hstack]
  exact Array.mem_push_self

/-- A store fails if no slot is handed out, or if what is handed out is not a slot. -/
theorem store_error_cases {fault : Fault}
    (h : Pool.Reached past config drawn later typed.pool) (hsize : config.objectSize = layout.size)
    (hascending : Ascending (drawn ++ own))
    (hstore : (typed.store memory record).Gives own (.error fault, after)) :
    (typed.pool.allocate memory).Gives own (.error fault, after.pool) ∨
    (own = [] ∧ ∃ address, fault = .invalidFree address ∧ Dropped typed address after) := by
  rcases store_cases hstore with ⟨_, _, hok, -, -⟩ | ⟨_, hfault, hallocate⟩ |
    ⟨address, hfault, hallocate, hwrite⟩
  · contradiction
  · rw [Except.error.inj hfault]
    exact Or.inl hallocate
  · have hmisplaced : ¬ config.objectSize ∣ address.offset.toNat := by
      intro hdvd
      have hwritten := (fst_write_of_allocate h hascending hallocate record.encode).2 hdvd
      rw [hwrite] at hwritten
      contradiction
    rcases Pool.allocate_cases hallocate with
      ⟨index, block, offset, rfl, -, hblock, hnext, hok, hafter⟩ | ⟨_, -, -, hok, -⟩ |
      ⟨id, _, -, -, -, hok, -⟩
    · rcases Except.ok.inj hok with rfl
      have hmem := Array.mem_of_getElem? hblock
      have hwell := h.sound.wellFormed block hmem
      rcases Block.take_cases hnext with ⟨hinside, rfl, -⟩ | ⟨hpassed, rest, hstack, htake⟩
      · -- The cursor stands at a slot.
        have hdvd := hwell.dvd_cursor
        rw [(h.sound.sized block hmem).1, ← hwell.toNat_cursor hinside] at hdvd
        exact absurd hdvd hmisplaced
      · have hpopped : typed.pool.revise index Block.take =
            typed.pool.revise index ({ · with freeStack := rest }) :=
          Pool.revise_congr hblock htake
        refine Or.inr ⟨rfl, _, Except.error.inj hfault, hsize ▸ hmisplaced, index, block, rest,
          hblock, rfl, Nat.le_antisymm hwell.cursor_le hpassed, hstack, ?_⟩
        rw [hafter, Pool.takeAt, hpopped]
    · contradiction
    · -- A new block starts with a slot.
      rcases Except.ok.inj hok with rfl
      exact absurd (Nat.dvd_zero _) hmisplaced

/-! ## Histories without failures -/

/-- Whenever the quick check is given an address that a block contains at that time, a slot starts
there. -/
def AimedAtSlots (memory : Memory) (start : TypedPool layout) (drawn : List BlockId)
    (actions : List (Action layout)) : Prop :=
  ∀ firsts address rest own events middle, actions = firsts ++ .free .quick address :: rest →
    own <+: drawn → (start.history memory firsts).Gives own (events, middle) →
      middle.pool.contains address = true → layout.size ∣ address.offset.toNat

theorem aimedAtSlots_of_dvd
    (hdvd : ∀ address, .free .quick address ∈ actions → layout.size ∣ address.offset.toNat) :
    AimedAtSlots memory start drawn actions := by
  rintro firsts address rest own events middle rfl - - -
  exact hdvd address (by simp)

/-- What the quick check lets pass in a history that aims at slots is a slot. -/
theorem dvd_of_freed (haimed : AimedAtSlots memory start more actions)
    (hhistory : (start.history memory actions).Gives more (events, typed))
    (hfreed : ⟨.free .quick address, .done⟩ ∈ events) : layout.size ∣ address.offset.toNat := by
  rcases List.append_of_mem hfreed with ⟨before, others, rfl⟩
  rcases exists_moment hhistory with
    ⟨firsts, rest, own, given, future, middle, next, hactions, rfl, hfirsts, hact, -⟩
  apply haimed firsts address rest own before middle hactions (List.prefix_append _ _) hfirsts
  rcases hfree : middle.pool.free .quick address with ⟨result, pool⟩
  simp only [act, free, hfree, gives_done_iff, Prod.map_apply, id_eq, Prod.mk.injEq] at hact
  rcases Pool.free_cases hfree with ⟨fault, -, rfl, -⟩ | ⟨index, block, hblock, hcontains, -, -, -⟩
  · cases hact.2.1
  · exact Array.any_eq_true'.2 ⟨block, Array.mem_of_getElem? hblock, hcontains⟩

/-- A store that is refused found no slot, or was handed a misplaced address that had been freed. -/
theorem refused_cases {fault : Fault}
    (hcreate : (create birth layout config).Gives drawn (.ok start))
    (hascending : Ascending (drawn ++ more))
    (hhistory : (start.history past actions).Gives more
      (before ++ ⟨.store record, .refused fault⟩ :: others, typed)) :
    (∃ part ids events pool given after, past.Part part ∧
      Pool.Reached (birth.join past) config ids events pool ∧
      pool.blockCount ≤ typed.pool.blockCount ∧
      (pool.allocate part).Gives given (.error fault, after)) ∨
    (∃ address, fault = .invalidFree address ∧ ¬ layout.size ∣ address.offset.toNat ∧
      FreedSince before address) := by
  have hsize := (pool_of_create hcreate).1
  have hnew := Pool.Reached.created (Memory.part_join_left birth past) hascending.left
    (pool_of_create hcreate).2
  have hpast := Memory.part_join_right birth past
  rcases exists_moment hhistory with
    ⟨firsts, rest, own, given, future, middle, next, rfl, rfl, hfirsts, hact, hrest⟩
  have hblocks : middle.pool.blockCount ≤ typed.pool.blockCount :=
    Nat.le_trans (size_le_of_act hact) (size_le_of_history hrest)
  rw [← List.append_assoc, ← List.append_assoc] at hascending
  rcases realizes_history hnew hpast hascending.left.left hfirsts with ⟨later, hreached, -⟩
  have htraced := (traced_of_create hcreate).history hnew hpast hsize hascending.left.left hfirsts
  rcases gives_act_store_iff.1 hact with ⟨result, hanswer, hstore⟩
  cases result with
  | ok address => cases hanswer
  | error cause =>
      cases hanswer
      rcases store_error_cases hreached hsize hascending.left hstore with
        hallocate | ⟨-, address, rfl, hdropped⟩
      · exact Or.inl ⟨_, _, _, middle.pool, given, next.pool, Memory.Part.all.turn firsts.length,
          hreached, hblocks, hallocate⟩
      · rcases htraced address hdropped.onFreeStack with hdvd | hfreed
        · exact absurd hdvd hdropped.misplaced
        · exact Or.inr ⟨address, rfl, hdropped.misplaced, hfreed⟩

/-- A store is refused for an address only if no slot starts there and the quick check let it pass
since the last reclaim.  No store is refused at all by a typed pool that gets the memory it asks
for, as long as the quick check is given only slots of its blocks and addresses that no block
contains; the thorough check can be given any addresses. -/
theorem stores_served (hcreate : (create birth layout config).Gives drawn (.ok start))
    (hascending : Ascending (drawn ++ more))
    (hhistory : (start.history memory actions).Gives more (events, typed)) :
    (∀ before later record address,
      events = before ++ ⟨.store record, .refused (.invalidFree address)⟩ :: later →
        ¬ layout.size ∣ address.offset.toNat ∧ FreedSince before address) ∧
    (memory.Provides config.objectSize config.regionBytes (2 * typed.pool.blockCount) →
      AimedAtSlots memory start more actions ∨ (∀ address, Action.free .quick address ∉ actions) →
        ∀ record answer, ⟨.store record, answer⟩ ∈ events →
          ∃ address, answer = .issued address) := by
  constructor
  · rintro before later record address rfl
    rcases refused_cases hcreate hascending hhistory with
      ⟨_, _, _, pool, _, _, -, hreached, -, hallocate⟩ | ⟨other, heq, hmisplaced, hfreed⟩
    · rcases Pool.allocate_error_cases hreached.plan_eq_ok hallocate with ⟨-, -, ⟨bytes, heq⟩, -⟩
      contradiction
    · rcases Fault.invalidFree.inj heq with rfl
      exact ⟨hmisplaced, hfreed⟩
  · intro hmemory hcareful record answer hmem
    have haimed : AimedAtSlots memory start more actions :=
      hcareful.elim id fun hthorough =>
        aimedAtSlots_of_dvd fun address hmem => absurd hmem (hthorough address)
    rcases List.append_of_mem hmem with ⟨before, later, rfl⟩
    rcases exists_moment hhistory with ⟨_, _, _, _, _, _, _, -, -, -, hact, -⟩
    rcases gives_act_store_iff.1 hact with ⟨result, rfl, -⟩
    cases result with
    | ok address => exact ⟨address, rfl⟩
    | error fault =>
        exfalso
        rcases refused_cases hcreate hascending hhistory with
          ⟨_, _, _, pool, _, _, hpart, hreached, hblocks, hallocate⟩ |
          ⟨other, -, hmisplaced, hfreed⟩
        · have hprovides := (hmemory.mono (Nat.mul_le_mul_left 2 hblocks)).part hpart
          rw [← hreached.sound.objectSize_eq] at hprovides
          rcases Pool.allocate_eq_ok hreached.plan_eq_ok hprovides hallocate with ⟨address, hok⟩
          contradiction
        · rcases hfreed with ⟨earlier, since, rfl, -⟩
          exact hmisplaced (dvd_of_freed haimed hhistory (by simp))

/-! ## Careless histories -/

/-- A slot is freed twice over, and is handed out twice. -/
def twiceFreedEvents : List (Event labelLayout) :=
  [⟨.store (label 1 10 0), .issued ⟨⟨1⟩, 0⟩⟩, ⟨.store (label 2 20 1), .issued ⟨⟨1⟩, 16⟩⟩,
    ⟨.free .quick ⟨⟨1⟩, 16⟩, .done⟩, ⟨.free .quick ⟨⟨1⟩, 16⟩, .done⟩,
    ⟨.store (label 3 30 2), .issued ⟨⟨1⟩, 16⟩⟩, ⟨.store (label 4 40 3), .issued ⟨⟨1⟩, 16⟩⟩]

/-- The pool that these events leave. -/
def twiceFreedPool : TypedPool labelLayout :=
  ((labelPool.history .ample (twiceFreedEvents.map Event.action)).runFrom 2).1.2

theorem gives_twiceFreedPool :
    (labelPool.history .ample (twiceFreedEvents.map Event.action)).Gives []
      (twiceFreedEvents, twiceFreedPool) := by
  have hrun : (labelPool.history .ample (twiceFreedEvents.map Event.action)).runFrom 2 =
      ((twiceFreedEvents, twiceFreedPool), 2) := by
    with_unfolding_all rfl
  exact gives_of_runFrom hrun

/-- A misplaced address is freed in vain, and so is a slot the second time. -/
def thoroughEvents : List (Event labelLayout) :=
  [⟨.store (label 1 10 0), .issued ⟨⟨1⟩, 0⟩⟩,
    ⟨.free .thorough ⟨⟨1⟩, 3⟩, .refused (.invalidFree ⟨⟨1⟩, 3⟩)⟩,
    ⟨.free .thorough ⟨⟨1⟩, 0⟩, .done⟩,
    ⟨.free .thorough ⟨⟨1⟩, 0⟩, .refused (.doubleFree ⟨⟨1⟩, 0⟩)⟩,
    ⟨.store (label 2 20 1), .issued ⟨⟨1⟩, 16⟩⟩, ⟨.store (label 3 30 2), .issued ⟨⟨1⟩, 0⟩⟩]

/-- The pool that these events leave. -/
def thoroughPool : TypedPool labelLayout :=
  ((labelPool.history .ample (thoroughEvents.map Event.action)).runFrom 2).1.2

theorem gives_thoroughPool :
    (labelPool.history .ample (thoroughEvents.map Event.action)).Gives []
      (thoroughEvents, thoroughPool) := by
  have hrun : (labelPool.history .ample (thoroughEvents.map Event.action)).runFrom 2 =
      ((thoroughEvents, thoroughPool), 2) := by
    with_unfolding_all rfl
  exact gives_of_runFrom hrun

/-- No store is refused after a slot was freed twice over, nor where all frees are thorough; the one
that is refused after a misplaced address was freed is refused for that address. -/
theorem stores_served_labelPool :
    (create .ample labelLayout ⟨16, 1, 32⟩).Gives [⟨1⟩] (.ok labelPool) ∧
      (labelPool.history .ample (twiceFreedEvents.map Event.action)).Gives []
        (twiceFreedEvents, twiceFreedPool) ∧
      (∀ record answer, ⟨.store record, answer⟩ ∈ twiceFreedEvents →
        ∃ address, answer = .issued address) ∧
      (labelPool.history .ample (thoroughEvents.map Event.action)).Gives []
        (thoroughEvents, thoroughPool) ∧
      (∀ record answer, ⟨.store record, answer⟩ ∈ thoroughEvents →
        ∃ address, answer = .issued address) ∧
      (labelPool.history .ample (labelEvents.map Event.action)).Gives [⟨2⟩]
        (labelEvents, labelledPool) ∧
      FreedSince (labelEvents.take 3) ⟨⟨1⟩, 3⟩ := by
  have hcreate : (create .ample labelLayout ⟨16, 1, 32⟩).Gives [⟨1⟩] (.ok labelPool) :=
    gives_runFrom (create .ample labelLayout ⟨16, 1, 32⟩) 1
  have hmemory : Memory.ample.Provides 16 (Config.regionBytes ⟨16, 1, 32⟩) 2 :=
    .of_ample (by decide) (by decide) (by decide)
  have hblocks : 2 * twiceFreedPool.pool.blockCount = 2 := by
    decide +kernel
  have hblocks' : 2 * thoroughPool.pool.blockCount = 2 := by
    decide +kernel
  have haimed : AimedAtSlots .ample labelPool [] (twiceFreedEvents.map Event.action) := by
    apply aimedAtSlots_of_dvd
    intro address hmem
    have heq : address = ⟨⟨1⟩, 16⟩ := by
      simpa [twiceFreedEvents] using hmem
    rw [heq]
    exact ⟨1, rfl⟩
  have hthorough : ∀ address, Action.free .quick address ∉ thoroughEvents.map Event.action := by
    simp [thoroughEvents]
  have hserved := (stores_served hcreate (by decide) gives_twiceFreedPool).2
    (hmemory.mono (Nat.le_of_eq hblocks)) (Or.inl haimed)
  have hserved' := (stores_served hcreate (by decide) gives_thoroughPool).2
    (hmemory.mono (Nat.le_of_eq hblocks')) (Or.inr hthorough)
  have hrefused := (stores_served hcreate (by decide) gives_labelledPool).1
    (labelEvents.take 3) (labelEvents.drop 4) (label 3 30 2) ⟨⟨1⟩, 3⟩ rfl
  exact ⟨hcreate, gives_twiceFreedPool, hserved, gives_thoroughPool, hserved', gives_labelledPool,
    hrefused.2⟩

end SlotPool.TypedPool
