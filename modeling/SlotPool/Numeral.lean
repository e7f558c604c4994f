import SlotPool.Decimal

/-!
# Counts written as words

A count is written in decimal digits with an optional plus in front, and fits into
an unsigned 64-bit word.  A text that is no count is refused at its first character
that makes it so.
-/

namespace SlotPool

/-- Why a text is not a count. -/
inductive NumeralFault where
  | empty
  | invalidDigit
  /-- The digits up to some point are too many. -/
  | tooLarge
deriving DecidableEq

namespace Numeral

/-- One more than the largest count that fits into 64 bits. -/
def limit : Nat :=
  0x10000000000000000

/-- Reads digits after those that make up `value`. -/
def readDigits (value : Nat) : List Char → Except NumeralFault Nat
  | [] => .ok value
  | c :: cs =>
    if Decimal.isDigitOf 10 c then
      let next := value * 10 + Decimal.digitsValue 10 [c]
      if next < limit then readDigits next cs else .error .tooLarge
    else
      .error .invalidDigit

/-- The count that a text stands for. -/
def read (text : String) : Except NumeralFault Nat :=
  match text.toList with
  | [] => .error .empty
  | ['+'] => .error .invalidDigit
  | '+' :: digits => readDigits 0 digits
  | digits => readDigits 0 digits

end Numeral

end SlotPool
