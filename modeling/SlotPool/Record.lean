/-!
# Fixed-width records

A record is a row of unsigned numbers, each of its own width in bytes, stored one
after another with the least significant byte first and with nothing in between.

Main definitions:

- `Layout`: the widths of the fields of a record.
- `Record`: one number for every field, each below the bound of its width.
- `Record.zero`: the record of zeros.
- `Record.encode` and `Layout.decode`: a record as bytes, and bytes as a record.

Main results:

- Theorem `Record.length_encode`: a record has as many bytes as its layout says.
- Theorem `Layout.decode_encode`: decoding the bytes of a record gives the record.
-/

namespace SlotPool

/-- The widths of the fields of a record, in bytes. -/
abbrev Layout := List Nat

/-- Bytes of a record of a layout. -/
def Layout.size : Layout → Nat
  | [] => 0
  | width :: rest => width + Layout.size rest

/-- A record: one number for every field of its layout. -/
inductive Record : Layout → Type where
  /-- The record without fields. -/
  | nil : Record []
  /-- A field in front of the others. -/
  | cons {width : Nat} {rest : Layout} (field : BitVec (8 * width)) (fields : Record rest) :
      Record (width :: rest)

/-! ## Numbers as bytes -/

/-- The `width` low bytes of a number, least significant first. -/
def littleEndian : (width value : Nat) → List UInt8
  | 0, _ => []
  | width + 1, value => value.toUInt8 :: littleEndian width (value / 256)

/-- The number whose bytes are given, least significant first. -/
def ofLittleEndian : List UInt8 → Nat
  | [] => 0
  | byte :: bytes => byte.toNat + 256 * ofLittleEndian bytes

@[simp] theorem length_littleEndian (width value : Nat) :
    (littleEndian width value).length = width := by
  induction width generalizing value with
  | zero => rfl
  | succ width ih => simp [littleEndian, ih]

theorem littleEndian_zero (width : Nat) : littleEndian width 0 = List.replicate width 0 := by
  induction width with
  | zero => rfl
  | succ width ih =>
    rw [littleEndian, Nat.zero_div, ih, List.replicate_succ]
    rfl

/-- Writing a number and reading it back keeps the bits that fit into the width. -/
theorem ofLittleEndian_littleEndian (width value : Nat) :
    ofLittleEndian (littleEndian width value) = (BitVec.ofNat (8 * width) value).toNat := by
  induction width generalizing value with
  | zero => simp [littleEndian, ofLittleEndian, Nat.mod_one]
  | succ width ih =>
    have low : value.toUInt8.toNat = value % 256 := UInt8.toNat_ofNat'
    have power : 2 ^ (8 * (width + 1)) = 256 * 2 ^ (8 * width) := by
      rw [Nat.mul_succ, Nat.pow_add, Nat.mul_comm]
    rw [littleEndian, ofLittleEndian, ih, low, BitVec.toNat_ofNat, BitVec.toNat_ofNat, power,
      Nat.mod_mul]

namespace Record

/-- A record with the given fields, each cut to its width; fields not given are zero. -/
def ofList : (layout : Layout) → List Nat → Record layout
  | [], _ => .nil
  | width :: rest, values =>
    .cons (BitVec.ofNat (8 * width) (values.headD 0)) (ofList rest values.tail)

/-- The record whose fields are all zero. -/
def zero : (layout : Layout) → Record layout
  | [] => .nil
  | _ :: rest => .cons 0 (zero rest)

/-- The fields of a record. -/
def toList {layout : Layout} : Record layout → List Nat
  | .nil => []
  | .cons field fields => field.toNat :: fields.toList

/-- The bytes of a record. -/
def encode {layout : Layout} : Record layout → List UInt8
  | .nil => []
  | @cons width _ field fields => littleEndian width field.toNat ++ fields.encode

end Record

/-- The record whose bytes are given. -/
def Layout.decode : (layout : Layout) → List UInt8 → Record layout
  | [], _ => .nil
  | width :: rest, bytes =>
    .cons (BitVec.ofNat (8 * width) (ofLittleEndian (bytes.take width)))
      (Layout.decode rest (bytes.drop width))

/-! ## Reading back -/

namespace Record

/-- A record takes up as many bytes as its layout says. -/
@[simp] theorem length_encode {layout : Layout} (record : Record layout) :
    record.encode.length = layout.size := by
  induction record with
  | nil => rfl
  | cons field fields ih => simp [encode, Layout.size, ih]

/-- The bytes of the record of zeros are zeros. -/
@[simp] theorem encode_zero (layout : Layout) :
    (zero layout).encode = List.replicate layout.size 0 := by
  induction layout with
  | nil => rfl
  | cons width rest ih =>
    have field : (0 : BitVec (8 * width)).toNat = 0 := BitVec.toNat_zero
    rw [zero, encode, field, littleEndian_zero, ih, List.replicate_append_replicate, Layout.size]

end Record

/-- Decoding the bytes of a record gives the record back. -/
@[simp] theorem Layout.decode_encode {layout : Layout} (record : Record layout) :
    layout.decode record.encode = record := by
  induction record with
  | nil => rfl
  | @cons width rest field fields ih =>
    have head : (littleEndian width field.toNat ++ fields.encode).take width =
        littleEndian width field.toNat := by
      rw [List.take_append_of_le_length (Nat.le_of_eq (length_littleEndian ..).symm),
        List.take_of_length_le (Nat.le_of_eq (length_littleEndian ..))]
    have tail : (littleEndian width field.toNat ++ fields.encode).drop width = fields.encode := by
      rw [List.drop_append_of_le_length (Nat.le_of_eq (length_littleEndian ..).symm),
        List.drop_of_length_le (Nat.le_of_eq (length_littleEndian ..)), List.nil_append]
    have same : BitVec.ofNat (8 * width) (ofLittleEndian (littleEndian width field.toNat)) =
        field := by
      rw [ofLittleEndian_littleEndian, BitVec.ofNat_toNat, BitVec.setWidth_eq, BitVec.ofNat_toNat,
        BitVec.setWidth_eq]
    rw [Record.encode, Layout.decode, head, tail, same, ih]

end SlotPool
