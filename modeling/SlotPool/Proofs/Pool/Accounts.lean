import SlotPool.Pool.Ledger
import SlotPool.Proofs.Pool.Reached

/-!
# A pool and its ledger agree

A ledger follows a pool from outside and knows nothing of cursors and free stacks.  As long as
the quick check is only asked about outstanding addresses, the two agree: in every block the
slots that the cursor has passed are those that the ledger has seen issued, and of these the
ones that the ledger holds to be outstanding are those that are not on the free stack.

Main definitions:

- `Pool.Tracks`: a pool and a ledger agree.

Main results:

- Theorem `Pool.Tracks.step`: they still agree after any careful step.
- Theorem `Pool.Reached.tracks`: after every careful history a pool agrees with its ledger.
-/

namespace SlotPool.Pool

open Fresh

variable {memory : Memory} {config : Config} {drawn more : List BlockId} {events : List Event}
variable {pool after : Pool} {ledger : Ledger} {address : Address}

namespace Ledger

/-! ## Outstanding offsets of a block -/

theorem mem_offsetsIn_iff {id : BlockId} {offset : UInt32} :
    offset ∈ ledger.offsetsIn id ↔ (⟨id, offset⟩ : Address) ∈ ledger.outstanding := by
  simp only [offsetsIn, List.mem_map, List.mem_filter, decide_eq_true_eq]
  constructor
  · rintro ⟨⟨block, place⟩, ⟨hmem, rfl⟩, rfl⟩
    exact hmem
  · intro hmem
    exact ⟨⟨id, offset⟩, ⟨hmem, rfl⟩, rfl⟩

/-- An address handed out is outstanding in its block. -/
theorem offsetsIn_issued (ledger : Ledger) (address : Address) :
    (ledger.note ⟨.allocate, .issued address⟩).offsetsIn address.block =
      address.offset :: ledger.offsetsIn address.block := by
  simp [note, offsetsIn]

/-- An address handed out changes nothing in other blocks. -/
theorem offsetsIn_issued_of_ne {id : BlockId} (hne : id ≠ address.block) :
    (ledger.note ⟨.allocate, .issued address⟩).offsetsIn id = ledger.offsetsIn id := by
  simp [note, offsetsIn, Ne.symm hne]

/-- An address taken back is no longer outstanding in its block. -/
theorem offsetsIn_freed (ledger : Ledger) (check : FreeCheck) (address : Address) :
    (ledger.note ⟨.free check address, .done⟩).offsetsIn address.block =
      (ledger.offsetsIn address.block).erase address.offset := by
  simp only [note, offsetsIn]
  induction ledger.outstanding with
  | nil => rfl
  | cons other rest ih =>
      by_cases hblock : other.block = address.block
      · by_cases hoffset : other.offset = address.offset
        · have heq : other = address := by
            cases other
            cases address
            simp_all
          simp [heq]
        · have hne : other ≠ address := fun heq => hoffset (congrArg Address.offset heq)
          simp [hne, hblock, hoffset, ih]
      · have hne : other ≠ address := fun heq => hblock (congrArg Address.block heq)
        simp [hne, hblock, ih]

/-- An address taken back changes nothing in other blocks. -/
theorem offsetsIn_freed_of_ne {id : BlockId} (check : FreeCheck) (hne : id ≠ address.block) :
    (ledger.note ⟨.free check address, .done⟩).offsetsIn id = ledger.offsetsIn id := by
  simp only [note, offsetsIn]
  induction ledger.outstanding with
  | nil => rfl
  | cons other rest ih =>
      by_cases heq : other = address
      · simp [heq, Ne.symm hne]
      · by_cases hid : other.block = id
        · simp [heq, hid, ih]
        · simp [heq, hid, ih]

end Ledger

/-! ## Agreement -/

/-- In every block the ledger knows which slots the cursor has passed, and which of them are not on
the free stack; and it knows nothing of other blocks. -/
structure Tracks (pool : Pool) (ledger : Ledger) : Prop where
  balanced : ∀ block ∈ pool.blocks, block.Balanced (ledger.offsetsIn block.id)
  issued : ∀ block ∈ pool.blocks, ∀ offset,
    (⟨block.id, offset⟩ : Address) ∈ ledger.issued ↔ offset.toNat ∈ block.passed
  known : ∀ address ∈ ledger.issued, address.block ∈ pool.ids
  outstanding_issued : ∀ address ∈ ledger.outstanding, address ∈ ledger.issued

namespace Tracks

theorem of_create (hcreate : (create memory config).Gives drawn (.ok pool)) :
    Tracks pool Ledger.empty := by
  have hvalid := (eq_ofBlocks_of_create hcreate).1
  refine ⟨?_, ?_, ?_, ?_⟩
  · intro block hmem
    rcases exists_fresh_of_create hcreate hmem with ⟨id, rfl⟩
    exact Block.balanced_fresh id (Config.plan_eq_ok hvalid)
  · intro block hmem offset
    rcases exists_fresh_of_create hcreate hmem with ⟨id, rfl⟩
    simp [Ledger.empty, Block.passed, Block.fresh]
  · intro address hmem
    exact absurd hmem List.not_mem_nil
  · intro address hmem
    exact absurd hmem List.not_mem_nil

theorem takeAt (h : Tracks pool ledger) (hdistinct : pool.ids.Nodup) {index : Nat}
    {block : Block} {offset : UInt32} (hblock : pool.blocks[index]? = some block)
    (hnext : block.nextOffset? = some offset) :
    Tracks (pool.takeAt index) (ledger.note ⟨.allocate, .issued (block.addressAt offset)⟩) := by
  have hmem : block ∈ pool.blocks := Array.mem_of_getElem? hblock
  refine ⟨?_, ?_, ?_, ?_⟩
  · intro other hother
    rcases mem_revise hdistinct hblock hother with rfl | ⟨hold, hne⟩
    · rw [Block.take_id]
      exact Ledger.offsetsIn_issued ledger (block.addressAt offset) ▸
        (h.balanced block hmem).take hnext
    · rw [Ledger.offsetsIn_issued_of_ne hne]
      exact h.balanced other hold
  · intro other hother place
    rcases mem_revise hdistinct hblock hother with rfl | ⟨hold, hne⟩
    · rw [Block.take_id, (h.balanced block hmem).mem_passed_take hnext, ← h.issued block hmem]
      simp [Ledger.note, Block.addressAt]
    · rw [← h.issued other hold]
      simp [Ledger.note, Block.addressAt, hne]
  · intro address haddress
    rw [ids_takeAt]
    rcases List.mem_cons.1 haddress with rfl | hold
    · exact mem_ids_iff.2 ⟨block, hmem, rfl⟩
    · exact h.known address hold
  · intro address haddress
    rcases List.mem_cons.1 haddress with rfl | hold
    · exact List.mem_cons_self
    · exact List.mem_cons_of_mem _ (h.outstanding_issued address hold)

theorem pushFree (h : Tracks pool ledger) (hdistinct : pool.ids.Nodup) {index : Nat}
    {block : Block} (hblock : pool.blocks[index]? = some block) (hid : address.block = block.id)
    (hout : address ∈ ledger.outstanding) (check : FreeCheck) :
    Tracks (pool.revise index (·.pushFree address.offset))
      (ledger.note ⟨.free check address, .done⟩) := by
  have hmem : block ∈ pool.blocks := Array.mem_of_getElem? hblock
  have hoffset : address.offset ∈ ledger.offsetsIn block.id :=
    hid ▸ Ledger.mem_offsetsIn_iff.2 hout
  refine ⟨?_, ?_, ?_, ?_⟩
  · intro other hother
    rcases mem_revise hdistinct hblock hother with rfl | ⟨hold, hne⟩
    · rw [Block.pushFree_id, ← hid, Ledger.offsetsIn_freed, hid]
      exact (h.balanced block hmem).pushFree hoffset
    · rw [Ledger.offsetsIn_freed_of_ne check (hid ▸ hne)]
      exact h.balanced other hold
  · intro other hother place
    rcases mem_revise hdistinct hblock hother with rfl | ⟨hold, hne⟩
    · exact h.issued block hmem place
    · exact h.issued other hold place
  · intro address haddress
    rw [ids_revise pool index (Block.pushFree_id · _)]
    exact h.known address haddress
  · intro other hother
    exact h.outstanding_issued other (List.mem_of_mem_erase hother)

/-- Adding a block of an identity that was never drawn before. -/
theorem grown (h : Tracks pool ledger) {id : BlockId} {regionBytes : Nat} (hnew : id ∉ pool.ids)
    (hplan : Block.plan pool.objectSize pool.blockBytes = .ok regionBytes) :
    Tracks (pool.grown id regionBytes) ledger := by
  have hforeign : ∀ offset, (⟨id, offset⟩ : Address) ∉ ledger.issued := fun offset hmem =>
    hnew (h.known _ hmem)
  have hnone : ledger.offsetsIn id = [] := by
    rw [List.eq_nil_iff_forall_not_mem]
    intro offset hmem
    exact hforeign offset (h.outstanding_issued _ (Ledger.mem_offsetsIn_iff.1 hmem))
  refine ⟨?_, ?_, ?_, h.outstanding_issued⟩
  · intro block hmem
    rcases Array.mem_push.1 hmem with hold | rfl
    · exact h.balanced block hold
    · have hfresh := Block.balanced_fresh id hplan
      rw [← hnone] at hfresh
      exact hfresh
  · intro block hmem offset
    rcases Array.mem_push.1 hmem with hold | rfl
    · exact h.issued block hold offset
    · simp [Block.fresh, Block.passed, hforeign]
  · intro address haddress
    rw [ids_grown]
    exact List.mem_append_left _ (h.known address haddress)

theorem reclaim (h : Tracks pool ledger) : Tracks pool.reclaim Ledger.empty := by
  refine ⟨?_, ?_, ?_, ?_⟩
  · intro block hmem
    rcases Array.mem_map.1 hmem with ⟨old, hold, rfl⟩
    exact (h.balanced old hold).reclaim
  · intro block hmem offset
    rcases Array.mem_map.1 hmem with ⟨old, hold, rfl⟩
    simp [Ledger.empty, Block.reclaim, Block.passed]
  · intro address hmem
    exact absurd hmem List.not_mem_nil
  · intro address hmem
    exact absurd hmem List.not_mem_nil

theorem overwrite (h : Tracks pool ledger) (hdistinct : pool.ids.Nodup) {index : Nat}
    {block : Block} (hblock : pool.blocks[index]? = some block) (start : Nat)
    (bytes : List UInt8) : Tracks (pool.revise index (·.overwrite start bytes)) ledger := by
  have hmem : block ∈ pool.blocks := Array.mem_of_getElem? hblock
  refine ⟨?_, ?_, ?_, h.outstanding_issued⟩
  · intro other hother
    rcases mem_revise hdistinct hblock hother with rfl | ⟨hold, hne⟩
    · exact (h.balanced block hmem).overwrite start bytes
    · exact h.balanced other hold
  · intro other hother place
    rcases mem_revise hdistinct hblock hother with rfl | ⟨hold, hne⟩
    · exact h.issued block hmem place
    · exact h.issued other hold place
  · intro address haddress
    rw [ids_revise pool index (Block.overwrite_id · start bytes)]
    exact h.known address haddress

/-- What a check lets pass is outstanding: the quick one by the caller's care, the thorough one
by itself. -/
theorem outstanding_of_passes (h : Tracks pool ledger) {check : FreeCheck} {block : Block}
    (hmem : block ∈ pool.blocks) (hid : address.block = block.id)
    (hcareful : Action.IsCareful ledger (.free check address))
    (hpasses : block.refusal? check address = none) : address ∈ ledger.outstanding := by
  cases check with
  | quick => exact hcareful
  | thorough =>
      rw [(h.balanced block hmem).refusal?_thorough hid] at hpasses
      split at hpasses
      · next hout => exact Ledger.mem_offsetsIn_iff.1 (hid ▸ hout)
      · split at hpasses <;> contradiction

/-- A pool and its ledger agree after a careful step if they did before. -/
theorem step {event : Event} (h : Tracks pool ledger) (hsound : Sound config drawn pool)
    (hascending : Ascending (drawn ++ more)) (hcareful : event.action.IsCareful ledger)
    (hstep : Step pool more event after) : Tracks after (ledger.note event) := by
  have hids : pool.ids.Nodup := hsound.ids_sublist.nodup hascending.left.nodup
  cases hstep with
  | taken hindex hblock hnext => exact h.takeAt hids hblock hnext
  | @grew id regionBytes hindex hplan =>
      have hnew : id ∉ pool.ids := by
        intro hold
        have hlt := (ascending_append_iff.1 hascending).2.2 id
          (hsound.ids_sublist.subset hold) id (List.mem_singleton_self id)
        exact Nat.lt_irrefl _ hlt
      have hgrown : (pool.grown id regionBytes).ids.Nodup := by
        rw [ids_grown]
        exact (hsound.ids_sublist.append (List.Sublist.refl _)).nodup hascending.nodup
      exact (h.grown hnew hplan).takeAt hgrown Array.getElem?_push_size (nextOffset?_fresh id hplan)
  | stuck hindex hmax => exact { h with }
  | @freed check address index block hblock hcontains hpasses =>
      have hmem := Array.mem_of_getElem? hblock
      have hid := (Block.contains_iff.1 hcontains).1
      exact h.pushFree hids hblock hid (h.outstanding_of_passes hmem hid hcareful hpasses) check
  | refused hrefusal => exact h
  | reclaimed => exact h.reclaim
  | written hblock hrange => exact h.overwrite hids hblock _ _
  | unwritten => exact h
  | read => exact h
  | contains => exact h
  | blockIndex => exact h
  | elsewhere => exact h

/-! ## What agreement says -/

theorem exists_block (h : Tracks pool ledger) (hissued : address ∈ ledger.issued) :
    ∃ (index : Nat) (block : Block), pool.blocks[index]? = some block ∧
      address.block = block.id := by
  rcases mem_ids_iff.1 (h.known address hissued) with ⟨block, hmem, hid⟩
  rcases Array.mem_iff_getElem?.1 hmem with ⟨index, hblock⟩
  exact ⟨index, block, hblock, hid.symm⟩

/-- No address is outstanding twice. -/
theorem nodup_outstanding (h : Tracks pool ledger) : ledger.outstanding.Nodup := by
  rw [List.nodup_iff_count_le_one]
  intro address
  by_cases hmem : address ∈ ledger.outstanding
  · rcases h.exists_block (h.outstanding_issued address hmem) with ⟨index, block, hblock, hid⟩
    have hbalanced := h.balanced block (Array.mem_of_getElem? hblock)
    have hnodup : (ledger.outstanding.filter (·.block = block.id)).Nodup :=
      List.Nodup.of_map _ (List.nodup_append.1 hbalanced.nodup).1
    have hcount : (ledger.outstanding.filter (·.block = block.id)).count address =
        ledger.outstanding.count address :=
      List.count_filter (decide_eq_true hid)
    rw [← hcount]
    exact List.nodup_iff_count_le_one.1 hnodup address
  · rw [List.count_eq_zero_of_not_mem hmem]
    exact Nat.zero_le 1

/-- The thorough check answers as the ledger does. -/
theorem refusal?_thorough (h : Tracks pool ledger) (hdistinct : pool.ids.Nodup)
    (address : Address) : pool.refusal? .thorough address = ledger.verdict address := by
  by_cases hknown : address.block ∈ pool.ids
  · rcases mem_ids_iff.1 hknown with ⟨block, hmem, hid⟩
    rcases Array.mem_iff_getElem?.1 hmem with ⟨index, hblock⟩
    have hbalanced := h.balanced block hmem
    have hout : address.offset ∈ ledger.offsetsIn block.id ↔ address ∈ ledger.outstanding := by
      rw [Ledger.mem_offsetsIn_iff, hid]
    have hissued : address ∈ ledger.issued ↔
        block.objectSize ∣ address.offset.toNat ∧ address.offset.toNat < block.bumpCursor := by
      rw [← hbalanced.wellFormed.mem_passed_iff, ← h.issued block hmem, hid]
    rw [refusal?_eq hdistinct hblock hid.symm, hbalanced.refusal?_thorough hid.symm,
      Ledger.verdict]
    simp only [hout, ← hissued]
  · have hforeign : address ∉ ledger.issued := fun hmem => hknown (h.known address hmem)
    have hout : address ∉ ledger.outstanding := fun hmem =>
      hforeign (h.outstanding_issued address hmem)
    rw [refusal?_foreign hknown, Ledger.verdict, if_neg hout, if_neg hforeign]

/-- An outstanding address passes either check. -/
theorem refusal?_eq_none (h : Tracks pool ledger) (hdistinct : pool.ids.Nodup) (check : FreeCheck)
    (hout : address ∈ ledger.outstanding) : pool.refusal? check address = none := by
  rcases h.exists_block (h.outstanding_issued address hout) with ⟨index, block, hblock, hid⟩
  rw [refusal?_eq hdistinct hblock hid]
  exact (h.balanced block (Array.mem_of_getElem? hblock)).refusal?_eq_none check hid
    (Ledger.mem_offsetsIn_iff.2 (hid ▸ hout))

/-- An outstanding address can be freed under either check, which puts its offset on the free stack
of its block and changes nothing else. -/
theorem free_eq (h : Tracks pool ledger) (hdistinct : pool.ids.Nodup) (check : FreeCheck)
    (hout : address ∈ ledger.outstanding) :
    ∃ (index : Nat) (block : Block), pool.blocks[index]? = some block ∧
      address.block = block.id ∧
      pool.free check address = (.ok (), pool.revise index fun block =>
        { block with freeStack := block.freeStack.push address.offset }) := by
  rcases h.exists_block (h.outstanding_issued address hout) with ⟨index, block, hblock, hid⟩
  have hbalanced := h.balanced block (Array.mem_of_getElem? hblock)
  have hoffset : address.offset ∈ ledger.offsetsIn block.id :=
    Ledger.mem_offsetsIn_iff.2 (hid ▸ hout)
  have hrevise : pool.revise index (·.pushFree address.offset) = pool.revise index fun block =>
      { block with freeStack := block.freeStack.push address.offset } :=
    revise_congr hblock (hbalanced.pushFree_eq hoffset)
  refine ⟨index, block, hblock, hid, ?_⟩
  rw [← hrevise]
  exact free_eq_revise hdistinct hblock hid (hbalanced.refusal?_eq_none check hid hoffset)

end Tracks

/-! ## Careful histories -/

instance decidableCareful (ledger : Ledger) (events : List Event) :
    Decidable (Careful ledger events) :=
  match events with
  | [] => isTrue trivial
  | event :: events =>
    have := decidableCareful (ledger.note event) events
    inferInstanceAs (Decidable (_ ∧ _))

theorem careful_append_iff {first second : List Event} :
    Careful ledger (first ++ second) ↔
      Careful ledger first ∧ Careful (ledger.after first) second := by
  induction first generalizing ledger with
  | nil => simp [Careful]
  | cons event first ih => simp [Careful, ih, and_assoc]

/-- After a careful history a pool agrees with its ledger. -/
theorem Reached.tracks (h : Reached memory config drawn events pool)
    (hcareful : Careful .empty events) : Tracks pool (Ledger.empty.after events) := by
  induction h with
  | created _ _ hcreate => exact Tracks.of_create hcreate
  | acted hreached hpart hascending hact ih =>
      rcases careful_append_iff.1 hcareful with ⟨hbefore, hlast, -⟩
      rw [Ledger.after_append]
      exact (ih hbefore).step hreached.sound hascending hlast (step_of_act hact)

/-! ## A short history -/

/-- Two slots are handed out, the first of them is taken back, once more in vain, and handed out
again; then a block is added for a third, and the second is taken back. -/
def reuseEvents : List Event :=
  [⟨.allocate, .issued ⟨⟨1⟩, 0⟩⟩, ⟨.allocate, .issued ⟨⟨1⟩, 8⟩⟩, ⟨.free .quick ⟨⟨1⟩, 0⟩, .done⟩,
    ⟨.free .thorough ⟨⟨1⟩, 0⟩, .refused (.doubleFree ⟨⟨1⟩, 0⟩)⟩,
    ⟨.allocate, .issued ⟨⟨1⟩, 0⟩⟩, ⟨.allocate, .issued ⟨⟨2⟩, 0⟩⟩,
    ⟨.free .thorough ⟨⟨1⟩, 8⟩, .done⟩]

/-- The pool that these events leave. -/
def reusePool : Pool where
  objectSize := 8
  blockBytes := 16
  blocks := #[{ Block.fresh ⟨1⟩ 8 16 with bumpCursor := 16, freeStack := #[8] },
    { Block.fresh ⟨2⟩ 8 16 with bumpCursor := 8 }]
  current := 1
  maxBlocks := 2

theorem reached_reusePool :
    Reached .ample ⟨8, 1, 16⟩ [⟨1⟩, ⟨2⟩] reuseEvents reusePool := by
  have hcreate : (create Memory.ample.first ⟨8, 1, 16⟩).runFrom 1 =
      (.ok (ofBlocks ⟨8, 1, 16⟩ #[.fresh ⟨1⟩ 8 16]), 2) := by
    rfl
  have hhistory : ((ofBlocks ⟨8, 1, 16⟩ #[.fresh ⟨1⟩ 8 16]).history Memory.ample.rest
      (reuseEvents.map Event.action)).runFrom 2 = ((reuseEvents, reusePool), 3) := by
    with_unfolding_all rfl
  exact reached_history hcreate hhistory

end SlotPool.Pool
