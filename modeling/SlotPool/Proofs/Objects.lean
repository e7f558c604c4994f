import SlotPool.Crew
import SlotPool.Proofs.Pool.Steps
import SlotPool.Proofs.TypedPool.Steps
import SlotPool.Session

/-!
# Identities of objects

Blocks, pools and typed pools draw one identity for every block that they add and none for
anything else.  So the identities of the blocks of an object are exactly those that were drawn
while it was built and used, in the order in which they were drawn; and an address of any other
identity is refused.

Main definitions:

- `Session.Object.ids`: the identities of the blocks of an object.
- `Session.Object.Refuses`: an object has nothing to do with an address.
- `Program.advance`: one instruction of a program over a private pool.

Main results:

- Theorems `Session.Construction.ids_of_build`, `Session.Object.ids_of_answer` and
  `Program.ids_of_advance`: which identities an object has got after its construction, after a
  request, and after an instruction of its owner.
- Theorem `Program.run_eq_advance`: running a program is going through its instructions.
- Theorem `Session.Object.refuses_of_not_mem`: addresses of other identities are refused.
-/

namespace SlotPool

open Fresh

variable {memory : Memory} {drawn more : List BlockId}

/-! ## Pools -/

namespace Pool

variable {config : Config} {pool after : Pool} {address : Address}

theorem ids_of_create (h : (create memory config).Gives drawn (.ok pool)) : pool.ids = drawn := by
  rcases eq_ofBlocks_of_create h with ⟨-, -, rfl⟩
  simp [ids, ofBlocks, Function.comp_def, Block.fresh]

/-- What handing out draws is the identity of the block added, if one is. -/
theorem ids_of_allocate {result : Except Fault Address}
    (h : (pool.allocate memory).Gives more (result, after)) : after.ids = pool.ids ++ more := by
  rcases allocate_cases h with
    ⟨index, block, offset, rfl, -, -, -, -, rfl⟩ | ⟨fault, rfl, -, -, hafter⟩ |
    ⟨id, regionBytes, rfl, -, -, -, rfl⟩
  · rw [ids_takeAt, List.append_nil]
  · rcases hafter with rfl | rfl
    · rw [List.append_nil]
    · rw [List.append_nil]
      rfl
  · rw [ids_takeAt, ids_grown]

@[simp]
theorem ids_free (pool : Pool) (check : FreeCheck) (address : Address) :
    (pool.free check address).2.ids = pool.ids := by
  rcases hfree : pool.free check address with ⟨result, after⟩
  rcases free_cases hfree with ⟨fault, -, -, rfl⟩ | ⟨index, block, -, -, -, -, rfl⟩
  · rfl
  · exact ids_revise pool index (Block.pushFree_id · _)

@[simp]
theorem ids_write (pool : Pool) (address : Address) (bytes : List UInt8) :
    (pool.write address bytes).2.ids = pool.ids := by
  rcases hwrite : pool.write address bytes with ⟨written, after⟩
  rcases write_cases hwrite with ⟨-, rfl⟩ | ⟨index, block, start, stop, -, -, -, rfl⟩
  · rfl
  · exact ids_revise pool index (Block.overwrite_id · start bytes)

end Pool

/-! ## Identities of an object -/

theorem TypedPool.ids_of_create {layout : Layout} {config : Config} {typed : TypedPool layout}
    (h : (create memory layout config).Gives drawn (.ok typed)) : typed.pool.ids = drawn :=
  Pool.ids_of_create (pool_of_create h).2

/-- What storing draws is the identity of the block added, if one is. -/
theorem TypedPool.ids_of_store {layout : Layout} {typed after : TypedPool layout}
    {record : Record layout} {result : Except Fault Address}
    (h : (typed.store memory record).Gives more (result, after)) :
    after.pool.ids = typed.pool.ids ++ more := by
  rcases store_cases h with ⟨address, pool, -, hallocate, hwrite⟩ | ⟨fault, -, hallocate⟩ |
    ⟨address, -, hallocate, -⟩
  · have hwritten := Pool.ids_write pool address record.encode
    rw [hwrite] at hwritten
    rw [hwritten, Pool.ids_of_allocate hallocate]
  · exact Pool.ids_of_allocate hallocate
  · exact Pool.ids_of_allocate hallocate

namespace Session

/-- Identities of the blocks of an object, in the order of their creation. -/
def Object.ids : Object → List BlockId
  | .block b => [b.id]
  | .pool p => p.ids
  | .typed _ t => t.pool.ids

/-- An object is built of blocks of the identities drawn. -/
theorem Construction.ids_of_build {construction : Construction} {object : Object}
    (h : (construction.build memory).Gives drawn (.ok object)) : object.ids = drawn := by
  cases construction with
  | block objectSize regionBytes =>
      rcases gives_bind_iff.1 h with ⟨own, rest, result, rfl, hcreate, hrest⟩
      rcases Block.create_cases hcreate with ⟨fault, rfl, rfl⟩ | ⟨id, bytes, rfl, -, rfl⟩
      · simp [Except.map] at hrest
      · rcases hrest with ⟨rfl, hobject⟩
        rw [← Except.ok.inj hobject]
        rfl
  | pool config =>
      rcases gives_bind_iff.1 h with ⟨own, rest, result, rfl, hcreate, hrest⟩
      cases result with
      | error fault => simp [Except.map] at hrest
      | ok pool =>
          rcases hrest with ⟨rfl, hobject⟩
          rw [← Except.ok.inj hobject, List.append_nil]
          exact Pool.ids_of_create hcreate
  | typed layout config =>
      rcases gives_bind_iff.1 h with ⟨own, rest, result, rfl, hcreate, hrest⟩
      cases result with
      | error fault => simp [Except.map] at hrest
      | ok typed =>
          rcases hrest with ⟨rfl, hobject⟩
          rw [← Except.ok.inj hobject, List.append_nil]
          exact TypedPool.ids_of_create hcreate

namespace Object

variable {object after : Object} {address : Address}

@[simp]
theorem ids_reclaim (object : Object) : object.reclaim.ids = object.ids := by
  cases object with
  | block b => rfl
  | pool p => exact Pool.ids_reclaim p
  | typed layout t => exact Pool.ids_reclaim t.pool

@[simp]
theorem ids_free (object : Object) (check : FreeCheck) (address : Address) :
    (object.free check address).2.ids = object.ids := by
  cases object with
  | block b =>
      simp only [free, Prod.map_snd, ids, Block.free]
      cases b.refusal? check address with
      | none => rfl
      | some fault => rfl
  | pool p => exact Pool.ids_free p check address
  | typed layout t => exact Pool.ids_free t.pool check address

@[simp]
theorem ids_freeMany (object : Object) (check : FreeCheck) (addresses : List Address) :
    (object.freeMany check addresses).2.ids = object.ids := by
  induction addresses generalizing object with
  | nil => rfl
  | cons address addresses ih =>
      simp only [freeMany, Prod.map_snd, id_eq]
      rw [ih, ids_free]

@[simp]
theorem ids_write (object : Object) (address : Address) (bytes : List UInt8) :
    (object.write address bytes).2.ids = object.ids := by
  cases object with
  | block b =>
      simp only [write, Prod.map_snd, ids, Block.write]
      cases b.slotRange? address with
      | none => rfl
      | some range => rfl
  | pool p => exact Pool.ids_write p address bytes
  | typed layout t => exact Pool.ids_write t.pool address bytes

@[simp]
theorem ids_set (object : Object) (address : Address) (fields : List Nat) :
    (object.set address fields).2.ids = object.ids := by
  cases object with
  | block b => rfl
  | pool p => rfl
  | typed layout t => exact Pool.ids_write t.pool address _

/-- Handing out a slot adds the identities drawn. -/
theorem ids_of_allocate {fields : List Nat} {result : Except Stop Address}
    (h : (object.allocate memory fields).Gives more (result, after)) :
    after.ids = object.ids ++ more := by
  cases object with
  | block b =>
      have htake : b.allocate.2.id = b.id := by
        unfold Block.allocate
        cases b.nextAddress? with
        | none => rfl
        | some address => exact b.take_id
      simp only [allocate] at h
      split at h
      · next address b' hallocate =>
          rw [hallocate] at htake
          rcases h with ⟨rfl, heq⟩
          rw [← (Prod.mk.inj heq).2, List.append_nil, ids, ids, htake]
      · next b' hallocate =>
          rw [hallocate] at htake
          rcases h with ⟨rfl, heq⟩
          rw [← (Prod.mk.inj heq).2, List.append_nil, ids, ids, htake]
  | pool p =>
      rcases gives_bind_iff.1 h with ⟨own, rest, ⟨issued, p'⟩, rfl, hallocate, hrest⟩
      simp only [gives_done_iff, Prod.mk.injEq] at hrest
      rcases hrest with ⟨rfl, -, rfl⟩
      rw [List.append_nil]
      exact Pool.ids_of_allocate hallocate
  | typed layout t =>
      rcases gives_bind_iff.1 h with ⟨own, rest, ⟨issued, t'⟩, rfl, hstore, hrest⟩
      simp only [gives_done_iff, Prod.mk.injEq] at hrest
      rcases hrest with ⟨rfl, -, rfl⟩
      rw [List.append_nil]
      exact TypedPool.ids_of_store hstore

theorem ids_of_allocateMany {fields : List Nat} {count : Nat} {issued : Array Address}
    {result : Array Address × Option Stop × Object}
    (h : (object.allocateMany memory fields count issued).Gives more result) :
    result.2.2.ids = object.ids ++ more := by
  induction count generalizing memory object issued more with
  | zero =>
      rcases h with ⟨rfl, rfl⟩
      rw [List.append_nil]
  | succ count ih =>
      rcases gives_bind_iff.1 h with ⟨own, rest, ⟨first, middle⟩, rfl, hallocate, hrest⟩
      have hids := ids_of_allocate hallocate
      cases first with
      | ok address => rw [ih hrest, hids, List.append_assoc]
      | error stop =>
          rcases hrest with ⟨rfl, rfl⟩
          rw [hids, List.append_nil]

theorem ids_of_done {reply : Reply} {left : Object} {seen : Array Address} {outcome : Outcome}
    (h : (done (Outcome.mk reply (some left) seen)).Gives more outcome)
    (hkept : outcome.object = some after) (hids : left.ids = object.ids) :
    after.ids = object.ids ++ more := by
  rcases h with ⟨rfl, rfl⟩
  rcases Option.some.inj hkept with rfl
  rw [hids, List.append_nil]

/-- A request adds the identities drawn to those of the object, unless it gives the object up. -/
theorem ids_of_answer {plain : FreeCheck} {request : Request Address} {outcome : Outcome}
    (h : (object.answer memory plain request).Gives more outcome)
    (hkept : outcome.object = some after) : after.ids = object.ids ++ more := by
  cases request with
  | allocate count fields =>
      rcases gives_bind_iff.1 h with ⟨own, rest, ⟨issued, stop, object'⟩, rfl, hmany, hrest⟩
      rcases hrest with ⟨rfl, rfl⟩
      rcases Option.some.inj hkept with rfl
      rw [List.append_nil]
      exact ids_of_allocateMany hmany
  | free thorough address => exact ids_of_done h hkept (ids_free object _ address)
  | freeAll thorough addresses => exact ids_of_done h hkept (ids_freeMany object _ addresses)
  | reclaim => exact ids_of_done h hkept (ids_reclaim object)
  | drop =>
      rcases h with ⟨rfl, rfl⟩
      contradiction
  | blockIndex address =>
      simp only [answer] at h
      split at h
      · exact ids_of_done h hkept rfl
      · exact ids_of_done h hkept rfl
  | write address bytes => exact ids_of_done h hkept (ids_write object address bytes)
  | set address fields => exact ids_of_done h hkept (ids_set object address fields)
  | contains | bytes | get | first | footprint | stats | details | text | fieldText =>
      exact ids_of_done h hkept rfl

/-! ## Addresses of other objects -/

/-- An object finds nothing at an address and does nothing to it. -/
structure Refuses (object : Object) (address : Address) : Prop where
  contains : object.contains address = false
  blockIndex : ∀ pool, object.pool? = some pool → pool.blockIndex? address = none
  bytes : object.bytes? address = none
  get : object.get? address = none
  free : ∀ check, object.free check address = (.error (.invalidFree address), object)
  write : ∀ bytes, object.write address bytes = (false, object)
  set : ∀ fields, object.set address fields = (false, object)

/-- Addresses of blocks that an object does not have are refused. -/
theorem refuses_of_not_mem (hforeign : address.block ∉ object.ids) : object.Refuses address := by
  cases object with
  | block b =>
      have hcontains : b.contains address = false := by
        rw [Bool.eq_false_iff]
        intro hcontains
        exact hforeign (List.mem_singleton.2 (Block.contains_iff.1 hcontains).1)
      have hrange : b.slotRange? address = none := by
        simp [Block.slotRange?, Block.slotStart?, hcontains]
      refine ⟨hcontains, ?_, ?_, rfl, ?_, ?_, ?_⟩
      · intro pool hpool
        contradiction
      · simp [bytes?, Block.bytes?, hrange]
      · intro check
        cases check <;> simp [free, Block.free, Block.refusal?, hcontains]
      · intro bytes
        simp [write, Block.write, hrange]
      · intro fields
        rfl
  | pool p =>
      refine ⟨Pool.contains_foreign hforeign, ?_, ?_, rfl, ?_, ?_, ?_⟩
      · intro pool hpool
        rcases Option.some.inj hpool with rfl
        exact Pool.blockIndex?_eq_none hforeign
      · simp [bytes?, Pool.bytes?_foreign hforeign]
      · intro check
        simp [free, Pool.free_foreign hforeign]
      · intro bytes
        simp [write, Pool.write_foreign hforeign]
      · intro fields
        rfl
  | typed layout t =>
      have hbytes : t.pool.bytes? address = none := Pool.bytes?_foreign hforeign
      refine ⟨Pool.contains_foreign hforeign, ?_, hbytes, ?_, ?_, ?_, ?_⟩
      · intro pool hpool
        rcases Option.some.inj hpool with rfl
        exact Pool.blockIndex?_eq_none hforeign
      · simp [get?, TypedPool.get?, hbytes]
      · intro check
        simp [free, TypedPool.free, Pool.free_foreign hforeign]
      · intro bytes
        simp [write, Pool.write_foreign hforeign]
      · intro fields
        simp [set, TypedPool.set, Pool.write_foreign hforeign]

end Object

end Session

/-! ## Workers with a private pool -/

namespace Program

universe u

variable {α : Type u} {check : FreeCheck}

/-- Carries out one instruction of a program on a pool, and gives what is left of the program.
Nothing is left to do of a program that is over. -/
def advance (memory : Memory) (check : FreeCheck) : Program α → Pool → Fresh (Program α × Pool)
  | done value, pool => .done (.done value, pool)
  | crash, pool => .done (.crash, pool)
  | allocate next, pool =>
    (pool.allocate memory).bind fun (result, pool) =>
      .done (next (result.toOption.bind pool.place?), pool)
  | free place next, pool =>
    match pool.addressAt? place with
    | some address =>
      match pool.free check address with
      | (result, pool) => .done (next (refusalOf result), pool)
    | none => .done (next (.error .invalid), pool)
  | write place bytes next, pool =>
    match pool.addressAt? place with
    | some address =>
      match pool.write address bytes with
      | (written, pool) => .done (next written, pool)
    | none => .done (next false, pool)
  | reclaim next, pool => .done (next, pool.reclaim)

/-- To run a program is to carry out its first instruction and to run the rest. -/
theorem run_eq_advance (program : Program α) (pool : Pool) :
    program.run memory check pool =
      (program.advance memory.first check pool).bind fun (rest, pool) =>
        rest.run memory.rest check pool := by
  cases program with
  | done value => rfl
  | crash => rfl
  | allocate next => simp only [run, advance, bind_bind, done_bind]
  | free place next =>
      simp only [run, advance]
      cases pool.addressAt? place with
      | none => rfl
      | some address => rfl
  | write place bytes next =>
      simp only [run, advance]
      cases pool.addressAt? place with
      | none => rfl
      | some address => rfl
  | reclaim next => rfl

theorem ids_of_advance {program rest : Program α} {pool after : Pool}
    (h : (program.advance memory check pool).Gives more (rest, after)) :
    after.ids = pool.ids ++ more := by
  cases program with
  | done value =>
      rcases h with ⟨rfl, heq⟩
      rw [← (Prod.mk.inj heq).2, List.append_nil]
  | crash =>
      rcases h with ⟨rfl, heq⟩
      rw [← (Prod.mk.inj heq).2, List.append_nil]
  | allocate next =>
      rcases gives_bind_iff.1 h with ⟨own, none, ⟨result, pool'⟩, rfl, hallocate, hrest⟩
      rcases hrest with ⟨rfl, heq⟩
      rw [← (Prod.mk.inj heq).2, List.append_nil]
      exact Pool.ids_of_allocate hallocate
  | free place next =>
      simp only [advance] at h
      split at h
      · rcases h with ⟨rfl, heq⟩
        rw [← (Prod.mk.inj heq).2, List.append_nil, Pool.ids_free]
      · rcases h with ⟨rfl, heq⟩
        rw [← (Prod.mk.inj heq).2, List.append_nil]
  | write place bytes next =>
      simp only [advance] at h
      split at h
      · rcases h with ⟨rfl, heq⟩
        rw [← (Prod.mk.inj heq).2, List.append_nil, Pool.ids_write]
      · rcases h with ⟨rfl, heq⟩
        rw [← (Prod.mk.inj heq).2, List.append_nil]
  | reclaim next =>
      rcases h with ⟨rfl, heq⟩
      rw [← (Prod.mk.inj heq).2, List.append_nil, Pool.ids_reclaim]

end Program

end SlotPool
