import SlotPool.Crew.Program
import SlotPool.Proofs.Pool.Unnamed

/-!
# Programs and their pools

What a program asks of its pool comes down to four things that are done at places: a slot is handed
out, taken back or written, or all slots are taken back.  Whatever a program does, its pool is one
that can be reached; and what it does, and what it makes of its pool, does not depend on the
identities of the blocks.

Main definitions:

- `Pool.allocateAt`, `Pool.freeAt` and `Pool.writeAt`: what a program asks of its pool.

Main results:

- Theorem `Program.gives_run_bind`: to run one program after another is to run the first and then
  the other.
- Theorem `Program.reached_of_run`: programs lead from pools that can be reached to such pools.
- Theorem `Program.unnamed_of_run`: programs on pools that are the same but for identities give the
  same, and leave the pools the same but for identities.
-/

namespace SlotPool

open Fresh

universe u

variable {memory part : Memory} {check : FreeCheck} {config : Config}
variable {drawn drawn' more more' : List BlockId} {events events' : List Pool.Event}
variable {pool other after after' : Pool}

/-! ## Slots by their places -/

namespace Pool

/-- Hands out a slot, and tells its place. -/
def allocateAt (memory : Memory) (pool : Pool) : Fresh (Option Place × Pool) :=
  (pool.allocate memory).bind fun (result, pool) => .done (result.toOption.bind pool.place?, pool)

/-- Takes the slot of a place back. -/
def freeAt (check : FreeCheck) (pool : Pool) (place : Place) : Except Refusal Unit × Pool :=
  match pool.addressAt? place with
  | some address => (pool.free check address).map Program.refusalOf id
  | none => (.error .invalid, pool)

/-- Writes the slot of a place. -/
def writeAt (pool : Pool) (place : Place) (bytes : List UInt8) : Bool × Pool :=
  match pool.addressAt? place with
  | some address => pool.write address bytes
  | none => (false, pool)

variable {place : Option Place}

theorem gives_allocateAt_iff :
    (pool.allocateAt memory).Gives more (place, after) ↔
      ∃ result, (pool.allocate memory).Gives more (result, after) ∧
        place = result.toOption.bind after.place? := by
  constructor
  · intro h
    rcases gives_bind_iff.1 h with ⟨own, rest, ⟨result, middle⟩, rfl, hallocate, hdone⟩
    simp only [gives_done_iff, Prod.mk.injEq] at hdone
    rcases hdone with ⟨rfl, rfl, rfl⟩
    rw [List.append_nil]
    exact ⟨result, hallocate, rfl⟩
  · rintro ⟨result, hallocate, rfl⟩
    exact gives_bind_iff.2 ⟨more, [], (result, after), (List.append_nil more).symm, hallocate, rfl,
      rfl⟩

/-! ## Pools that stay reachable -/

theorem Reached.allocateAt (h : Reached memory config drawn events pool) (hpart : memory.Part part)
    (hascending : Ascending (drawn ++ more))
    (hallocate : (pool.allocateAt part).Gives more (place, after)) :
    ∃ later, Reached memory config (drawn ++ more) later after := by
  rcases gives_allocateAt_iff.1 hallocate with ⟨result, hresult, -⟩
  exact ⟨_, h.allocated hpart hascending hresult⟩

theorem Reached.freeAt (h : Reached memory config drawn events pool) (check : FreeCheck)
    (place : Place) : ∃ later, Reached memory config drawn later (pool.freeAt check place).2 := by
  unfold Pool.freeAt
  split
  · exact ⟨_, h.acted_done (act_free_eq rfl)⟩
  · exact ⟨_, h⟩

theorem Reached.writeAt (h : Reached memory config drawn events pool) (place : Place)
    (bytes : List UInt8) :
    ∃ later, Reached memory config drawn later (pool.writeAt place bytes).2 := by
  unfold Pool.writeAt
  split
  · exact ⟨_, h.acted_done (act_write_eq rfl)⟩
  · exact ⟨_, h⟩

theorem Reached.reclaim (h : Reached memory config drawn events pool) :
    ∃ later, Reached memory config drawn later pool.reclaim :=
  ⟨_, h.acted_done (show pool.act memory .reclaim = .done (.done, pool.reclaim) from rfl)⟩

/-! ## Places without identities -/

/-- The place of a slot handed out is an offset in what is the current block afterwards. -/
theorem Reached.place?_of_allocate (h : Reached memory config drawn events pool)
    (hascending : Ascending (drawn ++ more)) {address : Address}
    (hallocate : (pool.allocate part).Gives more (.ok address, after)) :
    after.place? address = some ⟨after.current, address.offset⟩ := by
  rw [place?, h.sound.blockIndex?_of_allocate h.valid hascending hallocate, Option.map_some]

theorem unnamed_of_allocateAt {place' : Option Place} (h : Reached memory config drawn events pool)
    (h' : Reached memory config drawn' events' other) (hascending : Ascending (drawn ++ more))
    (hascending' : Ascending (drawn' ++ more')) (hsame : pool.unnamed = other.unnamed)
    (hallocate : (pool.allocateAt part).Gives more (place, after))
    (hallocate' : (other.allocateAt part).Gives more' (place', after')) :
    place = place' ∧ after.unnamed = after'.unnamed := by
  rcases gives_allocateAt_iff.1 hallocate with ⟨result, hresult, rfl⟩
  rcases gives_allocateAt_iff.1 hallocate' with ⟨result', hresult', rfl⟩
  rcases unnamed_of_allocate hsame hresult hresult' with ⟨hresults, hafter⟩
  refine ⟨?_, hafter⟩
  cases result with
  | error fault =>
      cases result' with
      | error fault' => rfl
      | ok address' => cases hresults
  | ok address =>
      cases result' with
      | error fault' => cases hresults
      | ok address' =>
          have haddress : address.unnamed = address'.unnamed := by
            simpa [Except.map] using hresults
          have hoffset : address.offset = address'.offset := (Address.mk.inj haddress).2
          -- Both slots are in the current block, whose index is the same.
          have hplace := h.place?_of_allocate hascending hresult
          have hplace' := h'.place?_of_allocate hascending' hresult'
          rw [(twins_of_unnamed hafter).current_eq, hoffset] at hplace
          exact hplace.trans hplace'.symm

/-- Taking back at a place comes to the same in pools that are the same but for identities. -/
theorem unnamed_of_freeAt (hdistinct : pool.ids.Nodup) (hdistinct' : other.ids.Nodup)
    (hsame : pool.unnamed = other.unnamed) (check : FreeCheck) (place : Place) :
    (pool.freeAt check place).1 = (other.freeAt check place).1 ∧
      (pool.freeAt check place).2.unnamed = (other.freeAt check place).2.unnamed := by
  have htwins := twins_of_unnamed hsame
  simp only [freeAt, addressAt?]
  cases hblock : pool.blocks[place.block]? with
  | none =>
      rw [htwins.getElem?_eq_none hblock]
      exact ⟨rfl, hsame⟩
  | some block =>
      rcases htwins.exists_twin hblock with ⟨twin, htwin, -⟩
      have hmatch : Address.Matches pool.ids other.ids ⟨block.id, place.offset⟩
          ⟨twin.id, place.offset⟩ :=
        Or.inl (Address.samePlace_of_getElem? (getElem?_ids hblock) (getElem?_ids htwin) _)
      rw [htwin]
      simp only [Option.map_some, Block.addressAt]
      rcases htwins.free_cases hdistinct hdistinct' check hmatch with
        ⟨hfree, hfree'⟩ | ⟨hfree, hfree'⟩ | ⟨index, hfree, hfree'⟩
      · rw [hfree, hfree']
        exact ⟨rfl, hsame⟩
      · rw [hfree, hfree']
        exact ⟨rfl, hsame⟩
      · have hpush : ∀ pool : Pool, (pool.revise index (·.pushFree place.offset)).unnamed =
            pool.unnamed.revise index (·.pushFree place.offset) :=
          fun pool => unnamed_revise pool index fun _ => rfl
        rw [hfree, hfree']
        refine ⟨rfl, ?_⟩
        simp only [Prod.map_snd, id_eq]
        rw [hpush, hpush, hsame]

/-- A place of a block is written if a slot starts there. -/
theorem write_addressAt (hdistinct : pool.ids.Nodup) {index : Nat} {block : Block}
    (hblock : pool.blocks[index]? = some block) (offset : UInt32) (bytes : List UInt8) :
    pool.write ⟨block.id, offset⟩ bytes =
      match block.slotRange? ⟨block.id, offset⟩ with
      | some (start, _) => (true, pool.revise index (·.overwrite start bytes))
      | none => (false, pool) := by
  have hindex : pool.blockIndex? ⟨block.id, offset⟩ =
      if block.contains ⟨block.id, offset⟩ then some index else none :=
    blockIndex?_eq hdistinct hblock rfl
  by_cases hcontains : block.contains ⟨block.id, offset⟩ = true
  · rw [if_pos hcontains] at hindex
    simp only [write, slotRange?, owner?_eq_bind, hindex, Option.bind_some, hblock]
    cases block.slotRange? ⟨block.id, offset⟩ <;> rfl
  · rw [if_neg hcontains] at hindex
    simp [write, slotRange?, owner?_eq_bind, hindex, Block.slotRange?, Block.slotStart?, hcontains]

theorem unnamed_of_writeAt (hdistinct : pool.ids.Nodup) (hdistinct' : other.ids.Nodup)
    (hsame : pool.unnamed = other.unnamed) (place : Place) (bytes : List UInt8) :
    (pool.writeAt place bytes).1 = (other.writeAt place bytes).1 ∧
      (pool.writeAt place bytes).2.unnamed = (other.writeAt place bytes).2.unnamed := by
  have htwins := twins_of_unnamed hsame
  simp only [writeAt, addressAt?]
  cases hblock : pool.blocks[place.block]? with
  | none =>
      rw [htwins.getElem?_eq_none hblock]
      exact ⟨rfl, hsame⟩
  | some block =>
      rcases htwins.exists_twin hblock with ⟨twin, htwin, htwins⟩
      rw [htwin]
      simp only [Option.map_some, Block.addressAt]
      rw [write_addressAt hdistinct hblock, write_addressAt hdistinct' htwin,
        htwins.slotRange?_eq place.offset]
      cases twin.slotRange? ⟨twin.id, place.offset⟩ with
      | none => exact ⟨rfl, hsame⟩
      | some range =>
          rcases range with ⟨start, stop⟩
          have hover : ∀ pool : Pool, (pool.revise place.block (·.overwrite start bytes)).unnamed =
              pool.unnamed.revise place.block (·.overwrite start bytes) :=
            fun pool => unnamed_revise pool place.block fun _ => rfl
          refine ⟨rfl, ?_⟩
          simp only
          rw [hover, hover, hsame]

end Pool

/-! ## Running programs -/

namespace Program

variable {α : Type u} {program : Program α} {value value' : Option α}

theorem run_allocate (next : Option Place → Program α) (pool : Pool) :
    (allocate next).run memory check pool =
      (pool.allocateAt memory.first).bind fun (place, pool) =>
        (next place).run memory.rest check pool := by
  rw [Pool.allocateAt, bind_bind]
  rfl

theorem run_free (place : Place) (next : Except Refusal Unit → Program α) (pool : Pool) :
    (free place next).run memory check pool =
      (next (pool.freeAt check place).1).run memory.rest check (pool.freeAt check place).2 := by
  simp only [run, Pool.freeAt]
  cases pool.addressAt? place <;> rfl

theorem run_write (place : Place) (bytes : List UInt8) (next : Bool → Program α) (pool : Pool) :
    (write place bytes next).run memory check pool =
      (next (pool.writeAt place bytes).1).run memory.rest check (pool.writeAt place bytes).2 := by
  simp only [run, Pool.writeAt]
  cases pool.addressAt? place <;> rfl

theorem run_reclaim (next : Program α) (pool : Pool) :
    (reclaim next).run memory check pool = next.run memory.rest check pool.reclaim :=
  rfl

protected theorem bind_bind {β γ : Type u} (program : Program α) (f : α → Program β)
    (g : β → Program γ) :
    (program.bind f).bind g = program.bind fun value => (f value).bind g := by
  induction program with
  | done value => rfl
  | crash => rfl
  | allocate next ih => simp only [Program.bind, ih]
  | free place next ih => simp only [Program.bind, ih]
  | write place bytes next ih => simp only [Program.bind, ih]
  | reclaim next ih => simp only [Program.bind, ih]

/-- To run one program after another is to run the first, and the other unless the first crashed.
The other gets its answers from what the first left unasked. -/
theorem gives_run_bind {β : Type u} {f : α → Program β} {result : Option β}
    (hrun : ((program.bind f).run memory check pool).Gives more (result, after)) :
    ((program.run memory check pool).Gives more (none, after) ∧ result = none) ∨
    ∃ own rest value middle part, more = own ++ rest ∧
      (program.run memory check pool).Gives own (some value, middle) ∧ memory.Part part ∧
      ((f value).run part check middle).Gives rest (result, after) := by
  induction program generalizing memory more pool with
  | done value => exact Or.inr ⟨[], more, value, pool, memory, rfl, ⟨rfl, rfl⟩, .all, hrun⟩
  | crash =>
      rcases hrun with ⟨rfl, heq⟩
      rcases Prod.mk.inj heq with ⟨rfl, rfl⟩
      exact Or.inl ⟨⟨rfl, rfl⟩, rfl⟩
  | allocate next ih =>
      change ((allocate fun place => (next place).bind f).run memory check pool).Gives more _ at hrun
      rw [run_allocate] at hrun ⊢
      rcases gives_bind_iff.1 hrun with ⟨first, others, ⟨place, answered⟩, rfl, hallocate, hothers⟩
      rcases ih place hothers with
        ⟨hcrashed, rfl⟩ | ⟨own, rest, value, middle, part, rfl, hown, hpart, hrest⟩
      · exact Or.inl ⟨gives_bind_iff.2 ⟨_, _, _, rfl, hallocate, hcrashed⟩, rfl⟩
      · refine Or.inr ⟨first ++ own, rest, value, middle, part, ?_, ?_, ?_, hrest⟩
        · rw [List.append_assoc]
        · exact gives_bind_iff.2 ⟨_, _, _, rfl, hallocate, hown⟩
        · exact Memory.Part.all.rest.trans hpart
  | free place next ih =>
      change ((free place fun answer => (next answer).bind f).run memory check pool).Gives more _
        at hrun
      rw [run_free] at hrun ⊢
      rcases ih _ hrun with hcrashed | ⟨own, rest, value, middle, part, rfl, hown, hpart, hrest⟩
      · exact Or.inl hcrashed
      · exact Or.inr ⟨own, rest, value, middle, part, rfl, hown,
          Memory.Part.all.rest.trans hpart, hrest⟩
  | write place bytes next ih =>
      change ((write place bytes fun answer => (next answer).bind f).run memory check pool).Gives
        more _ at hrun
      rw [run_write] at hrun ⊢
      rcases ih _ hrun with hcrashed | ⟨own, rest, value, middle, part, rfl, hown, hpart, hrest⟩
      · exact Or.inl hcrashed
      · exact Or.inr ⟨own, rest, value, middle, part, rfl, hown,
          Memory.Part.all.rest.trans hpart, hrest⟩
  | reclaim next ih =>
      change ((reclaim (next.bind f)).run memory check pool).Gives more _ at hrun
      rw [run_reclaim] at hrun ⊢
      rcases ih hrun with hcrashed | ⟨own, rest, value, middle, part, rfl, hown, hpart, hrest⟩
      · exact Or.inl hcrashed
      · exact Or.inr ⟨own, rest, value, middle, part, rfl, hown,
          Memory.Part.all.rest.trans hpart, hrest⟩

/-- Programs lead from pools that can be reached to such pools. -/
theorem reached_of_run (h : Pool.Reached memory config drawn events pool)
    (hpart : memory.Part part) (hascending : Ascending (drawn ++ more))
    (hrun : (program.run part check pool).Gives more (value, after)) :
    ∃ later, Pool.Reached memory config (drawn ++ more) later after := by
  induction program generalizing part drawn more events pool with
  | done _ =>
      rcases hrun with ⟨rfl, heq⟩
      rcases Prod.mk.inj heq with ⟨-, rfl⟩
      exact ⟨events, (List.append_nil drawn).symm ▸ h⟩
  | crash =>
      rcases hrun with ⟨rfl, heq⟩
      rcases Prod.mk.inj heq with ⟨-, rfl⟩
      exact ⟨events, (List.append_nil drawn).symm ▸ h⟩
  | allocate next ih =>
      rw [run_allocate] at hrun
      rcases gives_bind_iff.1 hrun with ⟨own, rest, ⟨place, middle⟩, rfl, hallocate, hrest⟩
      rw [← List.append_assoc] at hascending ⊢
      rcases h.allocateAt hpart.first hascending.left hallocate with ⟨later, hmiddle⟩
      exact ih place hmiddle hpart.rest hascending hrest
  | free place next ih =>
      rw [run_free] at hrun
      rcases h.freeAt check place with ⟨later, hmiddle⟩
      exact ih _ hmiddle hpart.rest hascending hrun
  | write place bytes next ih =>
      rw [run_write] at hrun
      rcases h.writeAt place bytes with ⟨later, hmiddle⟩
      exact ih _ hmiddle hpart.rest hascending hrun
  | reclaim next ih =>
      rw [run_reclaim] at hrun
      rcases h.reclaim with ⟨later, hmiddle⟩
      exact ih hmiddle hpart.rest hascending hrun

/-- Programs on pools that are the same but for identities give the same, and leave the pools the
same but for identities. -/
theorem unnamed_of_run (h : Pool.Reached memory config drawn events pool)
    (h' : Pool.Reached memory config drawn' events' other) (hpart : memory.Part part)
    (hascending : Ascending (drawn ++ more)) (hascending' : Ascending (drawn' ++ more'))
    (hsame : pool.unnamed = other.unnamed)
    (hrun : (program.run part check pool).Gives more (value, after))
    (hrun' : (program.run part check other).Gives more' (value', after')) :
    value = value' ∧ after.unnamed = after'.unnamed := by
  induction program generalizing part drawn drawn' more more' events events' pool other with
  | done _ =>
      rcases Prod.mk.inj hrun.2 with ⟨rfl, rfl⟩
      rcases Prod.mk.inj hrun'.2 with ⟨rfl, rfl⟩
      exact ⟨rfl, hsame⟩
  | crash =>
      rcases Prod.mk.inj hrun.2 with ⟨rfl, rfl⟩
      rcases Prod.mk.inj hrun'.2 with ⟨rfl, rfl⟩
      exact ⟨rfl, hsame⟩
  | allocate next ih =>
      rw [run_allocate] at hrun hrun'
      rcases gives_bind_iff.1 hrun with ⟨own, rest, ⟨place, middle⟩, rfl, hallocate, hrest⟩
      rcases gives_bind_iff.1 hrun' with ⟨own', rest', ⟨place', middle'⟩, rfl, hallocate', hrest'⟩
      rw [← List.append_assoc] at hascending hascending'
      -- Both programs are told the same place, so they go on in the same way.
      rcases Pool.unnamed_of_allocateAt h h' hascending.left hascending'.left hsame hallocate
        hallocate' with ⟨rfl, hmiddle⟩
      rcases h.allocateAt hpart.first hascending.left hallocate with ⟨later, hreached⟩
      rcases h'.allocateAt hpart.first hascending'.left hallocate' with ⟨later', hreached'⟩
      exact ih place hreached hreached' hpart.rest hascending hascending' hmiddle hrest hrest'
  | free place next ih =>
      rw [run_free] at hrun hrun'
      rcases Pool.unnamed_of_freeAt h.nodup_ids h'.nodup_ids hsame check place with
        ⟨hanswer, hmiddle⟩
      rcases h.freeAt check place with ⟨later, hreached⟩
      rcases h'.freeAt check place with ⟨later', hreached'⟩
      rw [← hanswer] at hrun'
      exact ih _ hreached hreached' hpart.rest hascending hascending' hmiddle hrun hrun'
  | write place bytes next ih =>
      rw [run_write] at hrun hrun'
      rcases Pool.unnamed_of_writeAt h.nodup_ids h'.nodup_ids hsame place bytes with
        ⟨hanswer, hmiddle⟩
      rcases h.writeAt place bytes with ⟨later, hreached⟩
      rcases h'.writeAt place bytes with ⟨later', hreached'⟩
      rw [← hanswer] at hrun'
      exact ih _ hreached hreached' hpart.rest hascending hascending' hmiddle hrun hrun'
  | reclaim next ih =>
      rw [run_reclaim] at hrun hrun'
      have hmiddle : pool.reclaim.unnamed = other.reclaim.unnamed := by
        rw [Pool.unnamed_reclaim, Pool.unnamed_reclaim, hsame]
      rcases h.reclaim with ⟨later, hreached⟩
      rcases h'.reclaim with ⟨later', hreached'⟩
      exact ih hreached hreached' hpart.rest hascending hascending' hmiddle hrun hrun'

end Program

end SlotPool
