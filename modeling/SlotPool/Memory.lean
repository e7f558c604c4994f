import SlotPool.Fault

/-!
# Reservations and sizes

Blocks and pools reserve storage from the system before they use it.  A
`Memory` says which reservations the system grants; the constants below are the
sizes that footprints are counted in.

The system may answer a request differently each time.  So a `Memory` has answers of
their own for whatever is told apart: whoever does several things one after another
does the first with `first` and all others with `rest`.  A run makes finitely many
requests, and there is a `Memory` for every way to answer them.

Main definitions:

- `Memory.reserve`: asks for some bytes, as the one request that is made.
- `Memory.first` and `Memory.rest`: the answers to a first thing, and to all after it.
- `Memory.after` and `Memory.turn`: the answers after some things, and to one of them.
- `Memory.Part`: the answers to some part of a run.
- `Memory.Always`: the system grants every request for so many bytes.
-/

namespace SlotPool

/-- The system's answers to all reservations of a run. -/
inductive Memory where
  /-- Every request is answered alike: by its size. -/
  | steady (grants : Nat → Bool)
  /-- The first thing that is done is answered apart from all after it. -/
  | join (first rest : Memory)

namespace Memory

/-- Whether the system gives `bytes` bytes to whoever asks for nothing else. -/
def grants : Memory → Nat → Bool
  | steady grants, bytes => grants bytes
  | join first _, bytes => first.grants bytes

/-- The answers to the first of several things. -/
def first : Memory → Memory
  | steady grants => steady grants
  | join first _ => first

/-- The answers to all but the first of several things. -/
def rest : Memory → Memory
  | steady grants => steady grants
  | join _ rest => rest

/-- The answers to what comes after the first `count` things. -/
def after (memory : Memory) : Nat → Memory
  | 0 => memory
  | count + 1 => memory.rest.after count

/-- The answers to one of several things, numbered from zero. -/
def turn (memory : Memory) (number : Nat) : Memory :=
  (memory.after number).first

/-- The answers to some part of a run. -/
inductive Part (memory : Memory) : Memory → Prop where
  /-- To all of it. -/
  | all : Part memory memory
  | first {part : Memory} (hpart : Part memory part) : Part memory part.first
  | rest {part : Memory} (hpart : Part memory part) : Part memory part.rest

/-- The system grants every request for `bytes` bytes. -/
def Always : Memory → Nat → Prop
  | steady grants, bytes => grants bytes = true
  | join first rest, bytes => first.Always bytes ∧ rest.Always bytes

/-- The largest reservation that can be expressed at all: half the bytes that 64 bits can address,
less one. -/
def largestReservation : Nat :=
  0x7fffffffffffffff

/-- A system that grants every reservation that can be expressed. -/
def ample : Memory :=
  steady fun bytes => decide (bytes ≤ largestReservation)

/-- Asks for `bytes` bytes. -/
def reserve (memory : Memory) (bytes : Nat) : Except Fault Unit :=
  if memory.grants bytes then .ok () else .error (.outOfMemory bytes)

/-- Bytes of the header of a block, which is also the size of a reference to a block. -/
def blockHeaderBytes : Nat :=
  64

/-- Bytes of the header of a pool. -/
def poolHeaderBytes : Nat :=
  56

/-- Bytes of one entry of a free stack. -/
def offsetBytes : Nat :=
  4

/-- One more than the largest byte offset that the 32 bits of an address can hold. -/
def offsetLimit : Nat :=
  0x100000000

@[simp] theorem after_zero (memory : Memory) : memory.after 0 = memory :=
  rfl

theorem after_succ (memory : Memory) (count : Nat) :
    memory.after (count + 1) = memory.rest.after count :=
  rfl

theorem after_add (memory : Memory) (count more : Nat) :
    memory.after (count + more) = (memory.after count).after more := by
  induction count generalizing memory with
  | zero => rw [Nat.zero_add, after_zero]
  | succ count ih => rw [Nat.add_right_comm, after_succ, after_succ, ih]

theorem rest_after (memory : Memory) (count : Nat) :
    (memory.after count).rest = memory.after (count + 1) := by
  rw [after_add]
  rfl

@[simp] theorem ample_first : ample.first = ample :=
  rfl

@[simp] theorem ample_rest : ample.rest = ample :=
  rfl

@[simp] theorem ample_after (count : Nat) : ample.after count = ample := by
  induction count with
  | zero => rfl
  | succ count ih => rw [after_succ, ample_rest, ih]

@[simp] theorem ample_turn (number : Nat) : ample.turn number = ample := by
  rw [turn, ample_after, ample_first]

/-! ## Parts of a run -/

theorem Part.trans {memory part piece : Memory} (h : memory.Part part) (hpiece : part.Part piece) :
    memory.Part piece := by
  induction hpiece with
  | all => exact h
  | first _ ih => exact ih.first
  | rest _ ih => exact ih.rest

theorem Part.after {memory part : Memory} (h : memory.Part part) (count : Nat) :
    memory.Part (part.after count) := by
  induction count generalizing part with
  | zero => exact h
  | succ count ih => exact ih h.rest

theorem Part.turn {memory part : Memory} (h : memory.Part part) (number : Nat) :
    memory.Part (part.turn number) :=
  (h.after number).first

theorem part_join_left (before later : Memory) : (join before later).Part before :=
  Part.all.first

theorem part_join_right (before later : Memory) : (join before later).Part later :=
  Part.all.rest

/-! ## What is always granted -/

section Always

variable {memory : Memory} {bytes : Nat}

theorem Always.grants (h : memory.Always bytes) : memory.grants bytes = true := by
  induction memory with
  | steady grants => exact h
  | join first rest ih _ => exact ih h.1

theorem Always.first (h : memory.Always bytes) : memory.first.Always bytes := by
  cases memory with
  | steady grants => exact h
  | join first rest => exact h.1

theorem Always.rest (h : memory.Always bytes) : memory.rest.Always bytes := by
  cases memory with
  | steady grants => exact h
  | join first rest => exact h.2

/-- What is always granted is so in every part of a run. -/
theorem Always.part {part : Memory} (h : memory.Always bytes) (hpart : memory.Part part) :
    part.Always bytes := by
  induction hpart with
  | all => exact h
  | first _ ih => exact ih.first
  | rest _ ih => exact ih.rest

theorem ample_always_iff : ample.Always bytes ↔ bytes ≤ largestReservation := by
  simp [Always, ample]

end Always

theorem reserve_eq_ok_iff {memory : Memory} {bytes : Nat} :
    memory.reserve bytes = .ok () ↔ memory.grants bytes = true := by
  by_cases h : memory.grants bytes <;> simp [reserve, h]

end Memory

end SlotPool
