import Std.Data.TreeMap

/-!
# Zero-filled byte regions

The storage of a block is a run of bytes that are all zero at first.  Only bytes
that were written are kept, so a region of four gibibytes costs nothing until it
is used.

Main results:

- Theorem `Region.read_write`: writing a run of bytes changes the bytes at these
  places, to the bytes written, and no other byte.
- Theorem `Region.slice_write_of_disjoint`: a write outside a slice leaves the
  slice as it was.
-/

namespace SlotPool

/-- Bytes of a region by their place; a place that was never written holds zero. -/
structure Region where
  written : Std.TreeMap Nat UInt8

namespace Region

/-- A region that was never written. -/
def zero : Region where
  written := ∅

/-- The byte at a place. -/
def read (region : Region) (place : Nat) : UInt8 :=
  region.written.getD place 0

/-- Writes one byte. -/
def put (region : Region) (place : Nat) (byte : UInt8) : Region where
  written := region.written.insert place byte

/-- Writes bytes one after another from `start` on. -/
def write (region : Region) (start : Nat) : List UInt8 → Region
  | [] => region
  | byte :: bytes => (region.put start byte).write (start + 1) bytes

/-- The `length` bytes from `start` on. -/
def slice (region : Region) (start length : Nat) : List UInt8 :=
  (List.range' start length).map region.read

/-! ## Reading back -/

@[simp] theorem read_zero (place : Nat) : zero.read place = 0 := by
  simp [read, zero]

theorem read_put (region : Region) (place other : Nat) (byte : UInt8) :
    (region.put place byte).read other = if place = other then byte else region.read other := by
  simp [read, put, Std.TreeMap.getD_insert]

/-- After a write a place holds the byte written there, if there is one, and else what it held. -/
theorem read_write (region : Region) (start : Nat) (bytes : List UInt8) (place : Nat) :
    (region.write start bytes).read place =
      if start ≤ place then bytes[place - start]?.getD (region.read place)
      else region.read place := by
  induction bytes generalizing region start with
  | nil => simp [write]
  | cons byte bytes ih =>
    rw [write, ih, read_put]
    by_cases before : place < start
    · have h₁ : ¬ start ≤ place := by omega
      have h₂ : ¬ start + 1 ≤ place := by omega
      have h₃ : start ≠ place := by omega
      simp [h₁, h₂, h₃]
    · by_cases here : place = start
      · subst here
        have after : ¬ place + 1 ≤ place := by omega
        simp [after]
      · have h₁ : start ≤ place := by omega
        have h₂ : start + 1 ≤ place := by omega
        have h₃ : start ≠ place := by omega
        have h₄ : place - start = (place - (start + 1)) + 1 := by omega
        simp [h₁, h₂, h₃, h₄]

@[simp] theorem length_slice (region : Region) (start length : Nat) :
    (region.slice start length).length = length := by
  simp [slice]

theorem getElem?_slice (region : Region) (start length i : Nat) :
    (region.slice start length)[i]? =
      if i < length then some (region.read (start + i)) else none := by
  by_cases h : i < length <;> simp [slice, h]

/-- A slice of a region never written is all zeros. -/
theorem slice_zero (start length : Nat) :
    zero.slice start length = List.replicate length 0 := by
  rw [List.eq_replicate_iff]
  refine ⟨length_slice zero start length, fun byte member => ?_⟩
  obtain ⟨place, -, rfl⟩ := List.mem_map.1 member
  exact read_zero place

/-- A write that ends before a slice starts, or starts where it has ended, does not touch it. -/
theorem slice_write_of_disjoint (region : Region) {start other length : Nat} {bytes : List UInt8}
    (h : start + bytes.length ≤ other ∨ other + length ≤ start) :
    (region.write start bytes).slice other length = region.slice other length := by
  apply List.ext_getElem?
  intro i
  simp only [getElem?_slice, read_write]
  split
  · split
    · rw [List.getElem?_eq_none (by omega)]
      rfl
    · rfl
  · rfl

end Region

end SlotPool
