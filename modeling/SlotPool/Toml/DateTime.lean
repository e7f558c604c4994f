import SlotPool.Toml.Text

/-!
# Dates and times

A date is year, month and day; a time is hour, minute and second, perhaps with a
fraction.  A date may be followed by a time, and such a time by its distance from
universal time.  Only what can be a date or a time is read as one: months have
their lengths, February by the leap-year rule, and a minute may have a leap second.
-/

namespace SlotPool.Toml

/-- A number written with exactly the given count of digits. -/
def fixedNumber (count : Nat) : Reader Nat := fun cs =>
  let digits := cs.take count
  if digits.length = count ∧ digits.all (Decimal.isDigitOf 10) then
    some (Decimal.digitsValue 10 digits, cs.drop count)
  else
    none

/-- A number of exactly two digits between two bounds. -/
def twoDigits (low high : Nat) : Reader Nat := fun cs => do
  let (value, rest) ← fixedNumber 2 cs
  if low ≤ value ∧ value ≤ high then some (value, rest) else none

/-- Leaves out one given character. -/
def expect (c : Char) : List Char → Option (List Char)
  | [] => none
  | d :: rest => if d = c then some rest else none

/-- A year with a leap day. -/
def isLeapYear (year : Nat) : Bool :=
  year % 4 == 0 && (year % 100 != 0 || year % 400 == 0)

/-- Number of days of a month. -/
def daysIn (year month : Nat) : Nat :=
  if month = 2 then (if isLeapYear year then 29 else 28)
  else if month = 4 ∨ month = 6 ∨ month = 9 ∨ month = 11 then 30
  else 31

/-- Leaves out a date. -/
def date? (cs : List Char) : Option (List Char) := do
  let (year, cs) ← fixedNumber 4 cs
  let cs ← expect '-' cs
  let (month, cs) ← twoDigits 1 12 cs
  let cs ← expect '-' cs
  let (_, cs) ← twoDigits 1 (daysIn year month) cs
  some cs

/-- Leaves out the fraction of a second, if there is one. -/
def skipFraction : List Char → List Char
  | '.' :: c :: rest =>
    if Decimal.isDigitOf 10 c then rest.dropWhile (Decimal.isDigitOf 10) else '.' :: c :: rest
  | cs => cs

/-- Leaves out a time of day. -/
def time? (cs : List Char) : Option (List Char) := do
  let (_, cs) ← twoDigits 0 23 cs
  let cs ← expect ':' cs
  let (_, cs) ← twoDigits 0 59 cs
  let cs ← expect ':' cs
  let (_, cs) ← twoDigits 0 60 cs
  some (skipFraction cs)

/-- Leaves out a distance from universal time. -/
def offset? : List Char → Option (List Char)
  | [] => none
  | c :: cs =>
    if c = 'Z' ∨ c = 'z' then some cs
    else if c = '+' ∨ c = '-' then do
      let (_, cs) ← twoDigits 0 23 cs
      let cs ← expect ':' cs
      let (_, cs) ← twoDigits 0 59 cs
      some cs
    else none

/-- Leaves out a time that goes with a date, with its distance from universal time. -/
def dateTimeTail? : List Char → Option (List Char)
  | [] => none
  | c :: cs =>
    if c = 'T' ∨ c = 't' ∨ c = ' ' then do
      let cs ← time? cs
      some ((offset? cs).getD cs)
    else none

/-- Leaves out a date, a time, or both. -/
def dateTime? (cs : List Char) : Option (List Char) :=
  match date? cs with
  | some rest => some ((dateTimeTail? rest).getD rest)
  | none => time? cs

end SlotPool.Toml
