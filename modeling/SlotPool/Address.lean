/-!
# Slot addresses

Every block carries an identity, and a slot is named by the identity of its
block together with the byte offset at which the slot starts.  Identities are
never used twice, so an address issued by one pool means nothing to any other.

Main definitions:

- `BlockId`: the identity of a block.
- `Address`: a block identity and a 32-bit byte offset.
- `Address.compare`: addresses are ordered by block first and by offset second.
-/

namespace SlotPool

/-- Identity of a block: its rank among all blocks created so far, counted from one. -/
structure BlockId where
  number : Nat
deriving DecidableEq, Inhabited

/-- Address of a slot: the block that holds it and the byte offset of its first byte. -/
structure Address where
  block : BlockId
  offset : UInt32
deriving DecidableEq, Inhabited

namespace BlockId

/-- Short form of an identity, as in `block#3`. -/
def text (id : BlockId) : String :=
  s!"block#{id.number}"

/-- Field form of an identity: its rank in parentheses. -/
def fieldText (id : BlockId) : String :=
  s!"BlockId({id.number})"

end BlockId

namespace Address

/-- Addresses are ordered by the rank of their block, and within a block by offset. -/
protected def compare (a b : Address) : Ordering :=
  (Ord.compare a.block.number b.block.number).then (Ord.compare a.offset b.offset)

instance : Ord Address where
  compare := Address.compare

/-- Lower-case hexadecimal digits of a number; zero is the single digit `0`. -/
def hexDigits (n : Nat) : String :=
  String.ofList (Nat.toDigits 16 n)

/-- Short form of an address, as in `block#3+0x1f`. -/
def text (a : Address) : String :=
  a.block.text ++ "+0x" ++ hexDigits a.offset.toNat

/-- Field form of an address: its block and its offset in decimal. -/
def fieldText (a : Address) : String :=
  "SlotAddr \x7b block: " ++ a.block.fieldText ++ s!", offset: {a.offset.toNat} \x7d"

end Address

end SlotPool
