import SlotPool.Proofs.Pool.Contents
import SlotPool.Proofs.TypedPool.Steps
import SlotPool.TypedPool.History

/-!
# Typed pools keep their records

A typed pool is a faithful store of records.  Whatever addresses it is given, a slot is read as the
record that was stored there last, by handing the slot out or by overwriting it, and as zeros if
none was; and every other address is read as nothing.

Whatever happens to a typed pool is a few things that happen to its pool, and these write at every
address the bytes of the records that are stored there.  So the contents of slots, which are known
after every history of a pool, are the bytes of the record that was stored last.

Main definitions:

- `TypedPool.Realizes`: what happens to a pool writes what is stored by what happens to a typed
  pool.
- `TypedPool.Faithful`: what a typed pool does with an address.

Main results:

- Theorem `TypedPool.realizes_act`: one thing done with a typed pool is realized by its pool.
- Theorem `TypedPool.realizes_history`: so is everything done one after another.
- Theorem `TypedPool.values_faithful`: a typed pool is a faithful store however it is used.
-/

namespace SlotPool.TypedPool

open Fresh

variable {memory part birth past : Memory} {layout : Layout} {config : Config}
variable {drawn more : List BlockId}
variable {earlier later : List Pool.Event} {events : List (Event layout)}
variable {start typed after : TypedPool layout} {address : Address}

/-! ## Writing what is stored -/

/-- Some events of a pool leave at every address the bytes of the record that some events of a
typed pool leave there. -/
def Realizes (later : List Pool.Event) (events : List (Event layout)) : Prop :=
  ∀ (address : Address) (record : Record layout),
    later.foldl (Pool.Event.overlaid address) record.encode =
      (recordAfter address record events).encode

theorem Realizes.append {later' : List Pool.Event} {events' : List (Event layout)}
    (h : Realizes later events) (h' : Realizes later' events') :
    Realizes (later ++ later') (events ++ events') := by
  intro address record
  rw [List.foldl_append, h address record, h' address, recordAfter, recordAfter, recordAfter,
    List.foldl_append]

/-- A record covers all bytes of another record of its layout. -/
theorem overlay_encode (record other : Record layout) :
    Pool.overlay record.encode other.encode = record.encode := by
  have hlength : record.encode.length = other.encode.length := by
    rw [record.length_encode, other.length_encode]
  rw [Pool.overlay, ← hlength, List.take_length, hlength, List.drop_length, List.append_nil]

/-- A record is stored at an address by writing all its bytes there. -/
theorem overlaid_encode (target : Address) (stored record : Record layout) :
    Pool.Event.overlaid address record.encode ⟨.write target stored.encode, .truth true⟩ =
      ((if target = address then some stored else none).getD record).encode := by
  simp only [Pool.Event.overlaid]
  split
  · exact overlay_encode stored record
  · rfl

/-! ## One step -/

/-- One thing done with a typed pool is realized by a few things done with its pool. -/
theorem realizes_act {action : Action layout} {answer : Answer layout}
    (h : Pool.Reached memory config drawn earlier typed.pool) (hpart : memory.Part part)
    (hascending : Ascending (drawn ++ more))
    (hact : (typed.act part action).Gives more (answer, after)) :
    ∃ later, Pool.Reached memory config (drawn ++ more) (earlier ++ later) after.pool ∧
      Realizes later [(⟨action, answer⟩ : Event layout)] := by
  cases action with
  | store record =>
      rcases gives_bind_iff.1 hact with ⟨own, rest, ⟨result, middle⟩, rfl, hstore, hrest⟩
      simp only [gives_done_iff, Prod.mk.injEq] at hrest
      rcases hrest with ⟨rfl, rfl, rfl⟩
      rw [List.append_nil] at hascending ⊢
      rcases store_cases hstore with ⟨target, pool, rfl, hallocate, hwrite⟩ |
        ⟨fault, rfl, hallocate⟩ | ⟨target, rfl, hallocate, hwrite⟩
      · have hreached :=
          (h.allocated hpart hascending hallocate).acted_done (Pool.act_write_eq hwrite)
        rw [List.append_assoc] at hreached
        exact ⟨_, hreached, fun address other => overlaid_encode target record other⟩
      · exact ⟨_, h.allocated hpart hascending hallocate, fun _ _ => rfl⟩
      · exact ⟨_, h.allocated hpart hascending hallocate, fun _ _ => rfl⟩
  | get target =>
      simp only [act, gives_done_iff, Prod.mk.injEq] at hact
      rcases hact with ⟨rfl, rfl, rfl⟩
      exact ⟨[], by simpa using h, fun _ _ => rfl⟩
  | set target record =>
      rcases hwrite : typed.pool.write target record.encode with ⟨written, pool⟩
      simp only [act, set, hwrite, gives_done_iff, Prod.map_apply, id_eq, Prod.mk.injEq] at hact
      rcases hact with ⟨rfl, rfl, rfl⟩
      rw [List.append_nil]
      refine ⟨_, h.acted_done (Pool.act_write_eq hwrite), ?_⟩
      cases written with
      | true => exact fun address other => overlaid_encode target record other
      | false => exact fun _ _ => rfl
  | free check target =>
      rcases hfree : typed.pool.free check target with ⟨result, pool⟩
      simp only [act, free, hfree, gives_done_iff, Prod.map_apply, id_eq, Prod.mk.injEq] at hact
      rcases hact with ⟨rfl, rfl, rfl⟩
      rw [List.append_nil]
      exact ⟨_, h.acted_done (Pool.act_free_eq hfree), fun _ _ => rfl⟩
  | reclaim =>
      simp only [act, gives_done_iff, Prod.mk.injEq] at hact
      rcases hact with ⟨rfl, rfl, rfl⟩
      rw [List.append_nil]
      exact ⟨[⟨.reclaim, .done⟩], h.acted_done rfl, fun _ _ => rfl⟩
  | elsewhere =>
      rcases gives_draw_iff.1 hact with ⟨id, rest, rfl, rfl, hdone⟩
      simp only [Prod.mk.injEq] at hdone
      rcases hdone with ⟨rfl, rfl⟩
      have hdraw : (typed.pool.act part .elsewhere).Gives [id] (.done, typed.pool) :=
        gives_draw_iff.2 ⟨id, [], rfl, rfl, rfl⟩
      exact ⟨_, h.acted hpart hascending hdraw, fun _ _ => rfl⟩

/-! ## Histories -/

/-- Everything done with a typed pool one after another is realized by things done with its pool. -/
theorem realizes_history {actions : List (Action layout)}
    (h : Pool.Reached memory config drawn earlier typed.pool) (hpart : memory.Part part)
    (hascending : Ascending (drawn ++ more))
    (hhistory : (typed.history part actions).Gives more (events, after)) :
    ∃ later, Pool.Reached memory config (drawn ++ more) (earlier ++ later) after.pool ∧
      Realizes later events := by
  induction actions generalizing part typed drawn more earlier events with
  | nil =>
      rcases hhistory with ⟨rfl, heq⟩
      rcases Prod.mk.inj heq with ⟨rfl, rfl⟩
      exact ⟨[], by simpa using h, fun _ _ => rfl⟩
  | cons action actions ih =>
      rcases gives_bind_iff.1 hhistory with ⟨own, rest, ⟨answer, middle⟩, rfl, hact, htail⟩
      rcases gives_bind_iff.1 htail with ⟨rest, none, ⟨tail, last⟩, rfl, hrest, hdone⟩
      simp only [gives_done_iff, Prod.mk.injEq] at hdone
      rcases hdone with ⟨rfl, rfl, rfl⟩
      rw [List.append_nil, ← List.append_assoc] at hascending ⊢
      rcases realizes_act h hpart.first hascending.left hact with ⟨first, hmiddle, hfirst⟩
      rcases ih hmiddle hpart.rest hascending hrest with ⟨others, hlast, hothers⟩
      rw [List.append_assoc earlier] at hlast
      exact ⟨first ++ others, hlast, hfirst.append hothers⟩

/-- The pool of a typed pool is reached by events that write what is stored. -/
theorem exists_reached {actions : List (Action layout)}
    (hcreate : (create birth layout config).Gives drawn (.ok start))
    (hascending : Ascending (drawn ++ more))
    (hhistory : (start.history past actions).Gives more (events, typed)) :
    ∃ later, Pool.Reached (birth.join past) config (drawn ++ more) later typed.pool ∧
      Realizes later events := by
  have hreached := Pool.Reached.created (Memory.part_join_left birth past) hascending.left
    (pool_of_create hcreate).2
  exact realizes_history hreached (Memory.part_join_right birth past) hascending hhistory

/-- What is read at a slot is what was stored there last, or zeros. -/
theorem eq_recordAfter_of_get? {record : Record layout} (hsize : config.objectSize = layout.size)
    (h : Pool.Reached memory config drawn later typed.pool) (hrealizes : Realizes later events)
    (hget : typed.get? address = some record) :
    record = recordAfter address (Record.zero layout) events := by
  rcases Option.map_eq_some_iff.1 hget with ⟨slot, hslot, rfl⟩
  have hholds := h.getD_bytes? address
  rw [hslot, Option.getD_some, Pool.slotAfter, hsize, ← Record.encode_zero,
    hrealizes address] at hholds
  rw [hholds, Layout.decode_encode]

/-! ## Stores that fail -/

/-- A block just added has a slot at its start. -/
theorem bytes?_grown_start {pool : Pool} {id : BlockId} {regionBytes : Nat}
    (hdistinct : (pool.grown id regionBytes).ids.Nodup)
    (hplan : Block.plan pool.objectSize pool.blockBytes = .ok regionBytes) :
    ((pool.grown id regionBytes).bytes? ⟨id, 0⟩).isSome := by
  have hwell := Block.wellFormed_of_plan id hplan
  have hregion : 0 < regionBytes := Nat.lt_of_lt_of_le hwell.objectSize_pos hwell.objectSize_le
  rw [Pool.bytes?_grown hdistinct, if_pos rfl, hwell.isSome_bytes?_iff]
  exact ⟨rfl, hregion, Nat.dvd_zero _⟩

/-- A store that fails leaves what is read at every address as it was. -/
theorem get?_of_store_error {record : Record layout} {fault : Fault}
    (h : Pool.Reached past config drawn later typed.pool)
    (hascending : Ascending (drawn ++ more))
    (hstore : (typed.store memory record).Gives more (.error fault, after)) (address : Address) :
    after.get? address = typed.get? address := by
  have hbytes : after.pool.bytes? address = typed.pool.bytes? address := by
    rcases store_cases hstore with ⟨_, _, hok, -, -⟩ | ⟨_, -, hallocate⟩ |
      ⟨target, -, hallocate, hwrite⟩
    · contradiction
    · rcases Pool.allocate_cases hallocate with ⟨_, _, _, -, -, -, -, hok, -⟩ |
        ⟨_, -, -, -, hafter⟩ | ⟨_, _, -, -, -, hok, -⟩
      · contradiction
      · rcases hafter with hafter | hafter
        · rw [hafter]
        · rw [hafter]
          rfl
      · contradiction
    · rcases Pool.allocate_cases hallocate with ⟨index, block, offset, -, -, hblock, -, -, hafter⟩ |
        ⟨_, -, -, hfault, -⟩ | ⟨id, regionBytes, -, -, hplan, htarget, hafter⟩
      · rw [hafter, Pool.bytes?_takeAt h.nodup_ids hblock]
      · contradiction
      · -- The first slot of a new block can be written.
        have hdistinct : (typed.pool.grown id regionBytes).ids.Nodup := by
          have hids := (h.allocated_join hascending hallocate).nodup_ids
          rwa [hafter, Pool.ids_takeAt] at hids
        have hsome := bytes?_grown_start hdistinct hplan
        rw [← Pool.bytes?_takeAt hdistinct Array.getElem?_push_size, ← hafter,
          ← Except.ok.inj htarget, ← Pool.fst_write _ _ record.encode, hwrite] at hsome
        contradiction
  rw [get?, get?, hbytes]

/-! ## The main result -/

/-- What a typed pool does with an address after `events`, for which the identities `drawn` were
drawn. -/
structure Faithful (drawn : List BlockId) (events : List (Event layout))
    (typed : TypedPool layout) (address : Address) : Prop where
  /-- Something can be read if the address names a block of the pool and points into its region at
  a multiple of the size of a record, and not otherwise. -/
  isSome_iff : (typed.get? address).isSome ↔
    ∃ block ∈ typed.pool.blocks, address.block = block.id ∧
      address.offset.toNat < block.regionBytes ∧ layout.size ∣ address.offset.toNat
  /-- What is read is the record that was stored there last, or zeros if none was. -/
  get_eq : ∀ record, typed.get? address = some record →
    record = recordAfter address (Record.zero layout) events
  /-- A record can be overwritten where one can be read, and nowhere else. -/
  set_iff : ∀ record, (typed.set address record).1 = true ↔ (typed.get? address).isSome
  /-- A store that fails changes nothing that can be read. -/
  store_error : ∀ {memory : Memory} {more : List BlockId} {record : Record layout} {fault : Fault}
    {after : TypedPool layout}, Ascending (drawn ++ more) →
      (typed.store memory record).Gives more (.error fault, after) →
        after.get? address = typed.get? address

/-- However a typed pool is used, it is a faithful store of records. -/
theorem values_faithful {actions : List (Action layout)}
    (hcreate : (create birth layout config).Gives drawn (.ok start))
    (hascending : Ascending (drawn ++ more))
    (hhistory : (start.history past actions).Gives more (events, typed)) (address : Address) :
    Faithful (drawn ++ more) events typed address := by
  rcases exists_reached hcreate hascending hhistory with ⟨later, hreached, hrealizes⟩
  have hsize := (pool_of_create hcreate).1
  refine ⟨?_, ?_, ?_, ?_⟩
  · rw [get?, Option.isSome_map, hreached.sound.isSome_bytes?_iff hreached.nodup_ids, hsize]
  · intro record hget
    exact eq_recordAfter_of_get? hsize hreached hrealizes hget
  · intro record
    rw [get?, Option.isSome_map, ← Pool.fst_write _ _ record.encode]
    rfl
  · intro memory own record fault after hown hstore
    exact get?_of_store_error hreached hown hstore address

/-! ## A careless history of labels -/

/-- A number, a cost and a parent. -/
def labelLayout : Layout := [4, 4, 8]

/-- A label of the given fields. -/
def label (number cost parent : Nat) : Record labelLayout :=
  .ofList labelLayout [number, cost, parent]

/-- A new pool of one block with two labels. -/
def labelPool : TypedPool labelLayout where
  pool := Pool.ofBlocks ⟨16, 1, 32⟩ #[.fresh ⟨1⟩ 16 32]

/-- A place is freed at which no slot starts, so that the third label cannot be stored; a slot is
used again, a block is added, and a slot of it is overwritten that was never handed out. -/
def labelEvents : List (Event labelLayout) :=
  [⟨.store (label 1 10 0), .issued ⟨⟨1⟩, 0⟩⟩, ⟨.store (label 2 20 1), .issued ⟨⟨1⟩, 16⟩⟩,
    ⟨.free .quick ⟨⟨1⟩, 3⟩, .done⟩,
    ⟨.store (label 3 30 2), .refused (.invalidFree ⟨⟨1⟩, 3⟩)⟩,
    ⟨.set ⟨⟨1⟩, 3⟩ (label 4 40 3), .truth false⟩, ⟨.free .thorough ⟨⟨1⟩, 0⟩, .done⟩,
    ⟨.store (label 5 50 4), .issued ⟨⟨1⟩, 0⟩⟩, ⟨.store (label 6 60 5), .issued ⟨⟨2⟩, 0⟩⟩,
    ⟨.set ⟨⟨2⟩, 16⟩ (label 7 70 6), .truth true⟩, ⟨.reclaim, .done⟩]

/-- The pool that these events leave. -/
def labelledPool : TypedPool labelLayout :=
  ((labelPool.history .ample (labelEvents.map Event.action)).runFrom 2).1.2

theorem gives_labelledPool :
    (labelPool.history .ample (labelEvents.map Event.action)).Gives [⟨2⟩]
      (labelEvents, labelledPool) := by
  have hrun : (labelPool.history .ample (labelEvents.map Event.action)).runFrom 2 =
      ((labelEvents, labelledPool), 3) := by
    with_unfolding_all rfl
  exact gives_of_runFrom hrun

/-- After this history the first slot holds the label that was stored when it was used again. -/
theorem values_faithful_labelledPool :
    (create .ample labelLayout ⟨16, 1, 32⟩).Gives [⟨1⟩] (.ok labelPool) ∧
      Ascending ([⟨1⟩] ++ [⟨2⟩]) ∧
      (labelPool.history .ample (labelEvents.map Event.action)).Gives [⟨2⟩]
        (labelEvents, labelledPool) ∧
      labelledPool.get? ⟨⟨1⟩, 0⟩ = some (label 5 50 4) ∧
      recordAfter ⟨⟨1⟩, 0⟩ (Record.zero labelLayout) labelEvents = label 5 50 4 ∧
      Faithful ([⟨1⟩] ++ [⟨2⟩]) labelEvents labelledPool ⟨⟨1⟩, 0⟩ := by
  have hcreate : (create .ample labelLayout ⟨16, 1, 32⟩).Gives [⟨1⟩] (.ok labelPool) :=
    gives_runFrom (create .ample labelLayout ⟨16, 1, 32⟩) 1
  have hascending : Ascending ([⟨1⟩] ++ [⟨2⟩]) := by decide
  have hget : labelledPool.get? ⟨⟨1⟩, 0⟩ = some (label 5 50 4) := by
    with_unfolding_all rfl
  exact ⟨hcreate, hascending, gives_labelledPool, hget, rfl,
    values_faithful hcreate hascending gives_labelledPool ⟨⟨1⟩, 0⟩⟩

end SlotPool.TypedPool
