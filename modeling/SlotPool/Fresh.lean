import SlotPool.Address

/-!
# Computations that name new blocks

Creating a block takes the next unused block identity.  `Fresh` describes a
computation by the identities it draws, one after another, and by the value it
finally gives.  Keeping the draws visible lets several computations share one
supply of identities in any order: whoever draws next gets the next identity.

Main definitions:

- `Fresh`: a value, or one more draw and what to do with the identity drawn.
- `Fresh.runFrom`: the computation on its own, with identities numbered upwards.

Main results:

- Theorem `Fresh.runFrom_bind`: running two computations in sequence continues
  with the first number that the former left unused.
- Theorem `Fresh.le_runFrom`: the supply only moves forward.
-/

namespace SlotPool

universe u v w

/-- A computation that draws unused block identities from a shared supply. -/
inductive Fresh (α : Type u) where
  | done (value : α)
  /-- The computation takes the next unused identity. -/
  | draw (next : BlockId → Fresh α)

namespace Fresh

variable {α : Type u} {β : Type v}

/-- Runs `f` on the value of a computation, after all its draws. -/
protected def bind : Fresh α → (α → Fresh β) → Fresh β
  | done value, f => f value
  | draw next, f => draw fun id => (next id).bind f

instance : Monad Fresh where
  pure := done
  bind := Fresh.bind

/-- Runs a computation whose first identity has rank `first`, and gives its value
together with the first rank left unused. -/
def runFrom : Fresh α → Nat → α × Nat
  | done value, first => (value, first)
  | draw next, first => (next ⟨first⟩).runFrom (first + 1)

/-- Runs a computation on a supply from which nothing was drawn yet. -/
def run (computation : Fresh α) : α :=
  (computation.runFrom 1).1

/-! ## Laws -/

@[simp] theorem pure_eq (value : α) : (pure value : Fresh α) = done value :=
  rfl

@[simp] theorem bind_eq {β : Type u} (x : Fresh α) (f : α → Fresh β) : x >>= f = x.bind f :=
  rfl

@[simp] theorem done_bind (value : α) (f : α → Fresh β) : (done value).bind f = f value :=
  rfl

@[simp] theorem draw_bind (next : BlockId → Fresh α) (f : α → Fresh β) :
    (draw next).bind f = draw fun id => (next id).bind f :=
  rfl

theorem bind_done (x : Fresh α) : x.bind done = x := by
  induction x with
  | done value => rfl
  | draw next ih => simp [ih]

theorem bind_bind {γ : Type w} (x : Fresh α) (f : α → Fresh β) (g : β → Fresh γ) :
    (x.bind f).bind g = x.bind fun value => (f value).bind g := by
  induction x with
  | done value => rfl
  | draw next ih => simp [ih]

instance : LawfulMonad Fresh :=
  LawfulMonad.mk' Fresh
    (fun x => bind_done x)
    (fun _ _ => rfl)
    (fun x f g => bind_bind x f g)

@[simp] theorem runFrom_done (value : α) (first : Nat) :
    (done value).runFrom first = (value, first) :=
  rfl

@[simp] theorem runFrom_draw (next : BlockId → Fresh α) (first : Nat) :
    (draw next).runFrom first = (next ⟨first⟩).runFrom (first + 1) :=
  rfl

/-- A sequence of two computations numbers the second one's identities after the first one's. -/
theorem runFrom_bind (x : Fresh α) (f : α → Fresh β) (first : Nat) :
    (x.bind f).runFrom first = (f (x.runFrom first).1).runFrom (x.runFrom first).2 := by
  induction x generalizing first with
  | done value => rfl
  | draw next ih => simp [ih]

/-- Running a computation never hands back a rank that was used before. -/
theorem le_runFrom (x : Fresh α) (first : Nat) : first ≤ (x.runFrom first).2 := by
  induction x generalizing first with
  | done value => exact Nat.le_refl first
  | draw next ih => exact Nat.le_trans (Nat.le_succ first) (ih ⟨first⟩ (first + 1))

end Fresh

end SlotPool
