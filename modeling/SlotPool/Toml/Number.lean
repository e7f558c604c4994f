import SlotPool.Toml.Text

/-!
# Numbers of a settings document

Integers are decimal with an optional sign, or hexadecimal, octal or binary without
one; they fill a signed 64-bit word.  Floating-point numbers have a fraction, an
exponent, or both, or are one of the words `inf` and `nan`.  Single underscores may
stand between digits.

Main definitions:

- `digitRun`: digits with underscores between them.
- `number`: an integer or a floating-point number.
-/

namespace SlotPool.Toml

/-- A number as it stands in a document. -/
inductive Number where
  | integer (value : Int)
  /-- A floating-point number, given by its 64 bits. -/
  | float (bits : UInt64)
deriving DecidableEq

/-! ## Digits -/

/-- The digits that follow a digit.  An underscore must stand between two digits. -/
def moreDigits (base : Nat) : Reader (List Char)
  | [] => some ([], [])
  | '_' :: c :: rest =>
    if Decimal.isDigitOf base c then prepend (some c) (moreDigits base rest) else none
  | c :: rest =>
    if Decimal.isDigitOf base c then prepend (some c) (moreDigits base rest)
    else if c = '_' then none
    else some ([], c :: rest)

/-- One digit or more. -/
def digitRun (base : Nat) : Reader (List Char)
  | [] => none
  | c :: rest =>
    if Decimal.isDigitOf base c then prepend (some c) (moreDigits base rest) else none

/-- The whole part of a decimal number, which has no needless zero in front. -/
def wholePart : Reader (List Char)
  | '0' :: rest => some (['0'], rest)
  | cs => digitRun 10 cs

/-- A sign, if there is one; tells whether it is a minus. -/
def sign : List Char → Bool × List Char
  | '+' :: rest => (false, rest)
  | '-' :: rest => (true, rest)
  | cs => (false, cs)

/-! ## Integers -/

/-- One more than the largest integer of a signed 64-bit word. -/
def wordBound : Int :=
  0x8000000000000000

/-- An integer that fits into a signed 64-bit word. -/
def inWord (value : Int) : Option Int :=
  if -wordBound ≤ value ∧ value < wordBound then some value else none

/-- An integer of a base, given by its digits. -/
def integerOf (negative : Bool) (base : Nat) (digits : List Char) : Option Int :=
  let magnitude : Int := Decimal.digitsValue base digits
  inWord (if negative then -magnitude else magnitude)

/-- The base of a number that starts with a zero and a letter. -/
def baseOf? : Char → Option Nat
  | 'x' => some 16
  | 'o' => some 8
  | 'b' => some 2
  | _ => none

/-- The rest of an integer of a given base. -/
def basedRest (base : Nat) : Reader Number := fun cs => do
  let (digits, rest) ← digitRun base cs
  let value ← integerOf false base digits
  some (.integer value, rest)

/-! ## Floating-point numbers -/

/-- The sign bit of a floating-point pattern. -/
def signBit (negative : Bool) : UInt64 :=
  if negative then 0x8000000000000000 else 0

/-- The pattern of infinity. -/
def infinityBits : UInt64 :=
  0x7ff0000000000000

/-- The pattern of a value that is no number. -/
def nanBits : UInt64 :=
  0x7ff8000000000000

/-- Powers of ten beyond which every number is infinite or zero, whatever its digits. -/
def exponentBound : Nat :=
  400

/-- The number nearest to `digits * 10 ^ exponent`.  An exponent beyond all numbers is enough. -/
def nearestBits (digits : Nat) (exponent : Int) : UInt64 :=
  let places : Int := (Nat.toDigits 10 digits).length
  if digits = 0 then 0
  else if (exponentBound : Int) < exponent + places then infinityBits
  else if exponent + places < -(exponentBound : Int) then 0
  else (Float.ofScientific digits (decide (exponent < 0)) exponent.natAbs).toBits

/-- A floating-point number of given sign, whole part, fraction and exponent.  A number too large to
hold is refused if it is positive, and is minus infinity if it is negative. -/
def floatOf (negative : Bool) (whole fraction : List Char) (exponent : Int) : Option Number :=
  let bits := nearestBits (Decimal.digitsValue 10 (whole ++ fraction)) (exponent - fraction.length)
  if bits = infinityBits ∧ ¬negative then none
  else some (.float (signBit negative ||| bits))

/-- The digits after a point, if there is a point. -/
def fractionPart : Reader (Option (List Char))
  | '.' :: rest => (digitRun 10 rest).map fun (digits, rest) => (some digits, rest)
  | cs => some (none, cs)

/-- An exponent after its letter. -/
def exponentRest : Reader Int := fun cs =>
  match sign cs with
  | (negative, cs) =>
    (digitRun 10 cs).map fun (digits, rest) =>
      let magnitude : Int := Decimal.digitsValue 10 digits
      (if negative then -magnitude else magnitude, rest)

/-- An exponent, if there is one. -/
def exponentPart : Reader (Option Int)
  | 'e' :: rest => (exponentRest rest).map fun (value, rest) => (some value, rest)
  | 'E' :: rest => (exponentRest rest).map fun (value, rest) => (some value, rest)
  | cs => some (none, cs)

/-- A decimal number from its parts: an integer if it has neither a fraction nor an exponent. -/
def decimalOf (negative : Bool) (whole : List Char) :
    Option (List Char) → Option Int → Option Number
  | none, none => (integerOf negative 10 whole).map .integer
  | fraction, exponent => floatOf negative whole (fraction.getD []) (exponent.getD 0)

/-- A decimal number after its sign. -/
def decimal (negative : Bool) : Reader Number := fun cs => do
  let (whole, cs) ← wholePart cs
  let (fraction, cs) ← fractionPart cs
  let (exponent, cs) ← exponentPart cs
  let value ← decimalOf negative whole fraction exponent
  some (value, cs)

/-- A number, in any notation. -/
def number : Reader Number
  | '0' :: c :: rest =>
    match baseOf? c with
    | some base => basedRest base rest
    | none => decimal false ('0' :: c :: rest)
  | cs =>
    match sign cs with
    | (negative, 'i' :: 'n' :: 'f' :: rest) =>
      some (.float (signBit negative ||| infinityBits), rest)
    | (negative, 'n' :: 'a' :: 'n' :: rest) => some (.float (signBit negative ||| nanBits), rest)
    | (negative, cs) => decimal negative cs

end SlotPool.Toml
