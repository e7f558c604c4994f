import SlotPool.Proofs.Pool.Steps

/-!
# The storage of the free stack

A block reserves storage for one entry of its free stack per slot, once and for all.  That is enough
as long as no thorough free is let pass while the stack is full.  The thorough check itself does not
look at the depth of the stack; it is the other entries that keep it from overfilling the stack, and
quick frees can put entries there that are not slots, or one slot twice.

Main definitions:

- `Block.Action`, `Block.act` and `Block.run`: things done with a block one after another.
- `Block.Fits`: the stack fits the storage that it was given in the beginning.
- `Block.Overfilled`: at some time a thorough free passed while the stack was full.
- `Block.FreedUnder`: what the stack of a block looks like if all frees were under one check.

Main results:

- Theorem `Block.storage_kept`: the storage suffices exactly as long as the stack is not overfilled,
  and it is not if all frees are under one check, or if quick frees are for outstanding slots.
- Theorem `Block.storage_exceeded`: the two checks together can overfill it.
-/

namespace SlotPool.Block

open Fresh

variable {memory : Memory} {drawn : List BlockId} {objectSize requested : Nat}
variable {block after : Block} {out : List UInt32} {check : FreeCheck} {address : Address}

/-! ## Doing things with a block -/

/-- One thing done with a block. -/
inductive Action where
  | allocate
  | free (check : FreeCheck) (address : Address)
  | reclaim
deriving DecidableEq

variable {action : Action} {actions : List Action}

/-- The block after one thing was done with it. -/
def act (block : Block) : Action → Block
  | .allocate => block.allocate.2
  | .free check address => (block.free check address).2
  | .reclaim => block.reclaim

/-- The block after things were done with it one after another. -/
def run (block : Block) (actions : List Action) : Block :=
  actions.foldl act block

@[simp]
theorem run_cons (block : Block) (action : Action) (actions : List Action) :
    block.run (action :: actions) = (block.act action).run actions :=
  rfl

/-- All that one action can do to a block. -/
inductive Step (block : Block) : Action → Block → Prop
  /-- A slot is handed out. -/
  | taken {offset : UInt32} (hnext : block.nextOffset? = some offset) :
      Step block .allocate block.take
  /-- There is no slot to hand out. -/
  | exhausted (hnext : block.nextOffset? = none) : Step block .allocate block
  /-- A slot is taken back. -/
  | freed {check : FreeCheck} {address : Address} (hpasses : block.refusal? check address = none) :
      Step block (.free check address) (block.pushFree address.offset)
  /-- A free is refused. -/
  | refused {check : FreeCheck} {address : Address} {fault : Fault}
      (hfails : block.refusal? check address = some fault) : Step block (.free check address) block
  /-- All slots are taken back. -/
  | reclaimed : Step block .reclaim block.reclaim

/-- Every action takes one of these steps. -/
theorem step_act (block : Block) (action : Action) : Step block action (block.act action) := by
  cases action with
  | allocate =>
      simp only [act, allocate, nextAddress?]
      cases hnext : block.nextOffset? with
      | none => exact Step.exhausted hnext
      | some offset => exact Step.taken hnext
  | free check address =>
      simp only [act, free]
      cases hrefusal : block.refusal? check address with
      | none => exact Step.freed hrefusal
      | some fault => exact Step.refused hrefusal
  | reclaim => exact Step.reclaimed

/-! ## What steps do to sizes -/

@[simp]
theorem capacitySlots_take (block : Block) : block.take.capacitySlots = block.capacitySlots := by
  rw [capacitySlots, capacitySlots, take_regionBytes, take_objectSize]

@[simp]
theorem freeReserved_take (block : Block) : block.take.freeReserved = block.freeReserved := by
  unfold take
  split <;> rfl

theorem size_freeStack_take_le (block : Block) :
    block.take.freeStack.size ≤ block.freeStack.size := by
  unfold take
  split
  · exact Nat.le_refl _
  · simp

/-- The storage of a free stack never shrinks. -/
theorem freeReserved_le_pushFree (block : Block) (offset : UInt32) :
    block.freeReserved ≤ (block.pushFree offset).freeReserved := by
  simp only [pushFree, grownStorage]
  split <;> omega

/-- The storage of a free stack holds all its entries. -/
theorem size_le_freeReserved_pushFree (block : Block) (offset : UInt32) :
    block.freeStack.size + 1 ≤ (block.pushFree offset).freeReserved := by
  simp only [pushFree, grownStorage, Array.size_push]
  split <;> omega

namespace Step

theorem capacitySlots_eq (hstep : Step block action after) :
    after.capacitySlots = block.capacitySlots := by
  cases hstep with
  | taken hnext => exact block.capacitySlots_take
  | _ => rfl

theorem regionBytes_eq (hstep : Step block action after) :
    after.regionBytes = block.regionBytes := by
  cases hstep with
  | taken hnext => exact block.take_regionBytes
  | _ => rfl

theorem freeReserved_le (hstep : Step block action after) :
    block.freeReserved ≤ after.freeReserved := by
  cases hstep with
  | taken hnext => exact Nat.le_of_eq block.freeReserved_take.symm
  | freed hpasses => exact block.freeReserved_le_pushFree _
  | _ => exact Nat.le_refl _

end Step

theorem capacitySlots_run (block : Block) (actions : List Action) :
    (block.run actions).capacitySlots = block.capacitySlots := by
  induction actions generalizing block with
  | nil => rfl
  | cons action actions ih => rw [run_cons, ih, (block.step_act action).capacitySlots_eq]

theorem regionBytes_run (block : Block) (actions : List Action) :
    (block.run actions).regionBytes = block.regionBytes := by
  induction actions generalizing block with
  | nil => rfl
  | cons action actions ih => rw [run_cons, ih, (block.step_act action).regionBytes_eq]

theorem freeReserved_le_run (block : Block) (actions : List Action) :
    block.freeReserved ≤ (block.run actions).freeReserved := by
  induction actions generalizing block with
  | nil => exact Nat.le_refl _
  | cons action actions ih =>
      exact Nat.le_trans (block.step_act action).freeReserved_le (ih (block.act action))

/-- The footprint of a block changes only with the storage of its free stack. -/
theorem footprint_run_eq_iff (block : Block) (actions : List Action) :
    (block.run actions).footprint = block.footprint ↔
      (block.run actions).freeReserved = block.freeReserved := by
  simp only [footprint, block.regionBytes_run, Memory.offsetBytes]
  omega

/-! ## Overfilling -/

/-- The free stack has no more entries than the block has slots, and storage for just as many. -/
structure Fits (block : Block) : Prop where
  size_le : block.freeStack.size ≤ block.capacitySlots
  reserved : block.freeReserved = block.capacitySlots

/-- A thorough free passes although the free stack has an entry for every slot. -/
def Action.Overfills (block : Block) : Action → Prop
  | free .thorough address =>
    block.freeStack.size = block.capacitySlots ∧ block.refusal? .thorough address = none
  | _ => False

/-- At some time one of the actions overfills the free stack. -/
def Overfilled (block : Block) : List Action → Prop
  | [] => False
  | action :: actions => action.Overfills block ∨ (block.act action).Overfilled actions

theorem fits_fresh (id : BlockId) (objectSize regionBytes : Nat) :
    (fresh id objectSize regionBytes).Fits where
  size_le := Nat.zero_le _
  reserved := rfl

/-- The quick check lets nothing pass once the stack is full. -/
theorem size_ne_of_quick (hpasses : block.refusal? .quick address = none) :
    block.freeStack.size ≠ block.capacitySlots := by
  intro hfull
  simp only [refusal?, hfull, if_true] at hpasses
  split at hpasses <;> contradiction

namespace Fits

theorem take (h : block.Fits) : block.take.Fits where
  size_le := by
    rw [capacitySlots_take]
    exact Nat.le_trans block.size_freeStack_take_le h.size_le
  reserved := by rw [freeReserved_take, capacitySlots_take, h.reserved]

/-- As long as the stack is not full, an entry more needs no storage. -/
theorem pushFree_eq (h : block.Fits) (hlt : block.freeStack.size < block.capacitySlots)
    (offset : UInt32) :
    block.pushFree offset = { block with freeStack := block.freeStack.push offset } := by
  have hstorage : (block.freeStack.push offset).size ≤ block.freeReserved := by
    rw [Array.size_push, h.reserved]
    exact hlt
  simp only [pushFree, grownStorage, if_pos hstorage]

theorem pushFree (h : block.Fits) (hlt : block.freeStack.size < block.capacitySlots)
    (offset : UInt32) : (block.pushFree offset).Fits := by
  rw [h.pushFree_eq hlt]
  refine ⟨?_, h.reserved⟩
  rw [Array.size_push]
  exact hlt

theorem reclaim (h : block.Fits) : block.reclaim.Fits where
  size_le := Nat.zero_le _
  reserved := h.reserved

/-- A step that does not overfill the stack leaves it within its storage. -/
theorem step (h : block.Fits) (hkeeps : ¬ action.Overfills block)
    (hstep : Step block action after) : after.Fits := by
  cases hstep with
  | taken hnext => exact h.take
  | @freed check address hpasses =>
      have hne : block.freeStack.size ≠ block.capacitySlots := by
        cases check with
        | quick => exact size_ne_of_quick hpasses
        | thorough => exact fun hfull => hkeeps ⟨hfull, hpasses⟩
      exact h.pushFree (Nat.lt_of_le_of_ne h.size_le hne) address.offset
  | reclaimed => exact h.reclaim
  | _ => exact h

theorem run (h : block.Fits) (hkeeps : ¬ block.Overfilled actions) :
    (block.run actions).Fits := by
  induction actions generalizing block with
  | nil => exact h
  | cons action actions ih =>
      rcases not_or.1 hkeeps with ⟨hfirst, hothers⟩
      exact ih (h.step hfirst (block.step_act action)) hothers

/-- A stack that is overfilled gets storage that it never gives back. -/
theorem lt_freeReserved_run (h : block.Fits) (hover : block.Overfilled actions) :
    block.capacitySlots < (block.run actions).freeReserved := by
  induction actions generalizing block with
  | nil => contradiction
  | cons action actions ih =>
      by_cases hfirst : action.Overfills block
      · cases action with
        | free check address =>
            cases check with
            | quick => contradiction
            | thorough =>
                rcases hfirst with ⟨hfull, hpasses⟩
                have hact : block.act (.free .thorough address) =
                    block.pushFree address.offset := by
                  simp only [act, free, hpasses]
                have hgrown := block.size_le_freeReserved_pushFree address.offset
                rw [hfull, ← hact] at hgrown
                exact Nat.lt_of_lt_of_le hgrown (freeReserved_le_run _ actions)
        | allocate => contradiction
        | reclaim => contradiction
      · have hstep := block.step_act action
        rw [← hstep.capacitySlots_eq]
        exact ih (h.step hfirst hstep) (hover.resolve_left hfirst)

end Fits

/-- What overfills the stack in the beginning of some actions overfills it in all of them. -/
theorem Overfilled.of_prefix {first : List Action} (hover : block.Overfilled first)
    (hbegins : first <+: actions) : block.Overfilled actions := by
  induction first generalizing block actions with
  | nil => contradiction
  | cons action first ih =>
      rcases hbegins with ⟨rest, rfl⟩
      rcases hover with hfirst | hothers
      · exact Or.inl hfirst
      · exact Or.inr (ih hothers (List.prefix_append first rest))

/-! ## Frees under one check -/

/-- What frees under one check leave on the stack: no more entries than there are slots, and under
the thorough check only slots that the cursor has passed, each once. -/
structure FreedUnder (check : FreeCheck) (block : Block) : Prop extends Fits block where
  wellFormed : block.WellFormed
  passed : check = .thorough → ∀ offset ∈ block.freeStack, offset.toNat ∈ block.passed
  nodup : check = .thorough → block.freeStack.toList.Nodup

namespace FreedUnder

theorem of_plan {regionBytes : Nat} (check : FreeCheck) (id : BlockId)
    (hplan : plan objectSize requested = .ok regionBytes) :
    (fresh id objectSize regionBytes).FreedUnder check where
  toFits := fits_fresh id objectSize regionBytes
  wellFormed := wellFormed_of_plan id hplan
  passed := by simp [fresh]
  nodup := by simp [fresh]

theorem take (h : block.FreedUnder check) {offset : UInt32}
    (hnext : block.nextOffset? = some offset) : block.take.FreedUnder check := by
  have hfits := h.toFits.take
  have hwell := h.wellFormed.take
  rcases take_cases hnext with ⟨-, -, htake⟩ | ⟨-, rest, hstack, htake⟩
  · rw [htake] at hfits hwell ⊢
    refine ⟨hfits, hwell, ?_, h.nodup⟩
    intro hcheck other hmem
    rw [h.wellFormed.passed_add]
    exact List.mem_append_left _ (h.passed hcheck other hmem)
  · have hall : block.freeStack.toList = rest.toList ++ [offset] := by
      rw [hstack, Array.toList_push]
    rw [htake] at hfits hwell ⊢
    refine ⟨hfits, hwell, ?_, ?_⟩
    · intro hcheck other hmem
      apply h.passed hcheck
      rw [hstack]
      exact Array.mem_push_of_mem offset hmem
    · intro hcheck
      have hnodup := h.nodup hcheck
      rw [hall] at hnodup
      exact (List.nodup_append.1 hnodup).1

/-- The thorough check lets a slot pass only if the cursor has passed it and it is not free. -/
theorem of_thorough (h : block.WellFormed) (hpasses : block.refusal? .thorough address = none) :
    address.offset.toNat ∈ block.passed ∧ address.offset ∉ block.freeStack := by
  have hid := (contains_iff.1 (contains_of_refusal?_eq_none hpasses)).1
  rw [h.refusal?_thorough hid] at hpasses
  split at hpasses
  · next hissued =>
      split at hpasses
      · contradiction
      · next hfree => exact ⟨h.mem_passed_iff.2 hissued, hfree⟩
  · contradiction

/-- What a check lets pass finds room on the stack. -/
theorem size_lt (h : block.FreedUnder check) (hpasses : block.refusal? check address = none) :
    block.freeStack.size < block.capacitySlots := by
  cases check with
  | quick => exact Nat.lt_of_le_of_ne h.size_le (size_ne_of_quick hpasses)
  | thorough =>
      -- The entries and the new one are distinct slots that the cursor has passed.
      rcases of_thorough h.wellFormed hpasses with ⟨hpassed, hfree⟩
      have hnodup : (address.offset :: block.freeStack.toList).Nodup :=
        List.nodup_cons.2 ⟨fun hmem => hfree (Array.mem_toList_iff.1 hmem), h.nodup rfl⟩
      have hsubset : ((address.offset :: block.freeStack.toList).map UInt32.toNat) ⊆
          block.passed := by
        intro place hmem
        rcases List.mem_map.1 hmem with ⟨offset, hoffset, rfl⟩
        rcases List.mem_cons.1 hoffset with rfl | hold
        · exact hpassed
        · exact h.passed rfl offset (Array.mem_toList_iff.1 hold)
      have hdistinct := hnodup.map fun _ _ => UInt32.toNat_inj.1
      have hle := (List.subperm_of_subset hdistinct hsubset).length_le
      rw [List.length_map, List.length_cons, Array.length_toList] at hle
      exact Nat.lt_of_lt_of_le hle h.wellFormed.length_passed_le

theorem pushFree (h : block.FreedUnder check) (hpasses : block.refusal? check address = none) :
    (block.pushFree address.offset).FreedUnder check := by
  have hlt := h.size_lt hpasses
  have hinside := (contains_iff.1 (contains_of_refusal?_eq_none hpasses)).2
  refine ⟨h.toFits.pushFree hlt address.offset, h.wellFormed.pushFree hinside, ?_, ?_⟩
  · rintro rfl offset hmem
    rcases Array.mem_push.1 hmem with hold | rfl
    · exact h.passed rfl offset hold
    · exact (of_thorough h.wellFormed hpasses).1
  · rintro rfl
    have hfree := (of_thorough h.wellFormed hpasses).2
    rw [h.toFits.pushFree_eq hlt, Array.toList_push, ← List.concat_eq_append]
    exact List.Nodup.concat (fun hmem => hfree (Array.mem_toList_iff.1 hmem)) (h.nodup rfl)

theorem reclaim (h : block.FreedUnder check) : block.reclaim.FreedUnder check where
  toFits := h.toFits.reclaim
  wellFormed := h.wellFormed.reclaim
  passed := by simp [Block.reclaim]
  nodup := by simp [Block.reclaim]

theorem overwrite (h : block.FreedUnder check) (start : Nat) (bytes : List UInt8) :
    (block.overwrite start bytes).FreedUnder check :=
  { h with wellFormed := h.wellFormed.overwrite start bytes }

end FreedUnder

/-- An action that frees nothing, or frees under the given check. -/
def Action.IsUnder (check : FreeCheck) : Action → Prop
  | free other _ => other = check
  | _ => True

theorem FreedUnder.step (h : block.FreedUnder check) (hunder : action.IsUnder check)
    (hstep : Step block action after) : after.FreedUnder check := by
  cases hstep with
  | taken hnext => exact h.take hnext
  | freed hpasses =>
      rcases hunder with rfl
      exact h.pushFree hpasses
  | reclaimed => exact h.reclaim
  | _ => exact h

/-- Frees under one check alone do not overfill the stack. -/
theorem FreedUnder.not_overfilled (h : block.FreedUnder check)
    (hunder : ∀ action ∈ actions, action.IsUnder check) : ¬ block.Overfilled actions := by
  induction actions generalizing block with
  | nil => exact not_false
  | cons action actions ih =>
      rcases List.forall_mem_cons.1 hunder with ⟨hfirst, hothers⟩
      rintro (hover | hover)
      · cases action with
        | free other address =>
            rcases hfirst with rfl
            cases other with
            | quick => exact hover
            | thorough => exact Nat.ne_of_lt (h.size_lt hover.2) hover.1
        | allocate => exact hover
        | reclaim => exact hover
      · exact ih (h.step hfirst (block.step_act action)) hothers hover

/-! ## Careful frees -/

/-- The offsets outstanding after an action. -/
def outstandingAfter (block : Block) (out : List UInt32) : Action → List UInt32
  | .allocate => block.nextOffset?.toList ++ out
  | .free check address =>
    if block.refusal? check address = none then out.erase address.offset else out
  | .reclaim => []

/-- An action that a careful caller may ask for: a quick free is for an outstanding slot. -/
def Action.IsCareful (out : List UInt32) : Action → Prop
  | free .quick address => address.offset ∈ out
  | _ => True

/-- Every action was careful at its time. -/
def Careful (block : Block) (out : List UInt32) : List Action → Prop
  | [] => True
  | action :: actions =>
    action.IsCareful out ∧ (block.act action).Careful (block.outstandingAfter out action) actions

namespace Balanced

/-- What a careful free gives back is outstanding, under either check. -/
theorem mem_of_passes (h : block.Balanced out)
    (hcareful : Action.IsCareful out (.free check address))
    (hpasses : block.refusal? check address = none) : address.offset ∈ out := by
  cases check with
  | quick => exact hcareful
  | thorough =>
      have hid := (contains_iff.1 (contains_of_refusal?_eq_none hpasses)).1
      rw [h.refusal?_thorough hid] at hpasses
      split at hpasses
      · next hout => exact hout
      · split at hpasses <;> contradiction

theorem step (h : block.Balanced out) (hcareful : action.IsCareful out)
    (hstep : Step block action after) : after.Balanced (block.outstandingAfter out action) := by
  cases hstep with
  | taken hnext =>
      rw [outstandingAfter, hnext]
      exact h.take hnext
  | exhausted hnext =>
      rw [outstandingAfter, hnext]
      exact h
  | freed hpasses =>
      rw [outstandingAfter, if_pos hpasses]
      exact h.pushFree (h.mem_of_passes hcareful hpasses)
  | refused hfails =>
      rw [outstandingAfter, hfails, if_neg (Option.some_ne_none _)]
      exact h
  | reclaimed => exact h.reclaim

/-- Careful frees do not overfill the stack, under whichever checks. -/
theorem not_overfilled (h : block.Balanced out) (hcareful : block.Careful out actions) :
    ¬ block.Overfilled actions := by
  induction actions generalizing block out with
  | nil => exact not_false
  | cons action actions ih =>
      rcases hcareful with ⟨hfirst, hothers⟩
      rintro (hover | hover)
      · cases action with
        | free check address =>
            cases check with
            | quick => exact hover
            | thorough =>
                exact Nat.ne_of_lt (h.size_lt (h.mem_of_passes hfirst hover.2)) hover.1
        | allocate => exact hover
        | reclaim => exact hover
      · exact ih (h.step hfirst (block.step_act action)) hothers hover

end Balanced

/-! ## The main results -/

/-- The free stack of a block stays within the storage reserved for it, and the footprint of the
block what it was, exactly as long as no thorough free passes while the stack is full.  None does if
all frees are under one check, whatever addresses they are given, or if quick frees are only for
outstanding slots. -/
theorem storage_kept (hcreate : (create memory objectSize requested).Gives drawn (.ok block))
    (actions : List Action) :
    ((∀ first, first <+: actions → (block.run first).freeDepth ≤ block.capacitySlots ∧
        (block.run first).footprint = block.footprint) ↔ ¬ block.Overfilled actions) ∧
      (∀ check, (∀ action ∈ actions, action.IsUnder check) → ¬ block.Overfilled actions) ∧
      (block.Careful [] actions → ¬ block.Overfilled actions) := by
  rcases create_cases hcreate with ⟨fault, -, hfault⟩ | ⟨id, regionBytes, -, hplan, hblock⟩
  · contradiction
  rcases Except.ok.inj hblock with rfl
  have hfits := fits_fresh id objectSize regionBytes
  refine ⟨⟨?_, ?_⟩, ?_, ?_⟩
  · intro hkept hover
    have hsame := (footprint_run_eq_iff _ actions).1 (hkept actions List.prefix_rfl).2
    have hgrown := hfits.lt_freeReserved_run hover
    rw [hsame, hfits.reserved] at hgrown
    exact Nat.lt_irrefl _ hgrown
  · intro hkeeps first hbegins
    have hafter := hfits.run fun hover => hkeeps (hover.of_prefix hbegins)
    constructor
    · rw [← capacitySlots_run _ first]
      exact hafter.size_le
    · rw [footprint_run_eq_iff, hafter.reserved, capacitySlots_run, hfits.reserved]
  · intro check hunder
    exact (FreedUnder.of_plan check id hplan).not_overfilled hunder
  · intro hcareful
    exact (balanced_fresh id hplan).not_overfilled hcareful

/-- A block of two slots is built. -/
theorem gives_fresh_twoSlots :
    (create .ample 8 16).Gives [⟨1⟩] (.ok (fresh ⟨1⟩ 8 16)) :=
  gives_runFrom (create .ample 8 16) 1

/-- Both slots are handed out, and then one slot, a place at which no slot starts and a place
outside the region are freed under the quick check. -/
def quickActions : List Action :=
  [.allocate, .allocate, .free .quick ⟨⟨1⟩, 0⟩, .free .quick ⟨⟨1⟩, 3⟩, .free .quick ⟨⟨1⟩, 0⟩,
    .free .quick ⟨⟨1⟩, 16⟩, .allocate, .free .quick ⟨⟨1⟩, 3⟩]

/-- Quick frees alone, however wrong, keep the stack within its storage. -/
theorem storage_kept_quickActions :
    (create .ample 8 16).Gives [⟨1⟩] (.ok (fresh ⟨1⟩ 8 16)) ∧
      ((fresh ⟨1⟩ 8 16).run quickActions).freeStack = #[0, 3] ∧
      ∀ first, first <+: quickActions → ((fresh ⟨1⟩ 8 16).run first).freeDepth ≤ 2 ∧
        ((fresh ⟨1⟩ 8 16).run first).footprint = 88 := by
  have hkept := storage_kept gives_fresh_twoSlots quickActions
  have hunder : ∀ action ∈ quickActions, action.IsUnder .quick := by
    simp [quickActions, Action.IsUnder]
  exact ⟨gives_fresh_twoSlots, by decide +kernel, hkept.1.2 (hkept.2.1 .quick hunder)⟩

/-- One slot is freed twice under the quick check, which fills the stack of two entries; the other
slot passes the thorough check; and the quick check, which only asks whether the stack is exactly
full, does not stop any more either. -/
def mixedActions : List Action :=
  [.allocate, .allocate, .free .quick ⟨⟨1⟩, 0⟩, .free .quick ⟨⟨1⟩, 0⟩, .free .thorough ⟨⟨1⟩, 8⟩,
    .free .quick ⟨⟨1⟩, 0⟩]

/-- Frees under both checks can overfill the stack, which then takes more storage. -/
theorem storage_exceeded :
    (create .ample 8 16).Gives [⟨1⟩] (.ok (fresh ⟨1⟩ 8 16)) ∧
      (fresh ⟨1⟩ 8 16).capacitySlots = 2 ∧ (fresh ⟨1⟩ 8 16).footprint = 88 ∧
      ((fresh ⟨1⟩ 8 16).run (mixedActions.take 5)).freeDepth = 3 ∧
      ((fresh ⟨1⟩ 8 16).run (mixedActions.take 5)).footprint = 96 ∧
      ((fresh ⟨1⟩ 8 16).run mixedActions).freeDepth = 4 :=
  ⟨gives_fresh_twoSlots, by decide +kernel⟩

end SlotPool.Block
