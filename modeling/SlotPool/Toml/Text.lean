import SlotPool.Decimal

/-!
# Characters, lines and strings of a settings document

The reader of a document works on the characters still to come.  A reader gives
what it has read together with the rest, or nothing if the characters do not start
with what it reads.

Main definitions:

- `Reader`: a function from the characters to come to a result and the rest.
- `skipSpace` and `endLine?`: what separates the words and the lines of a document.
- `string`: a string in any of its four notations.
-/

namespace SlotPool.Toml

/-- Reads something from the front of a list of characters. -/
abbrev Reader (α : Type) := List Char → Option (α × List Char)

/-! ## Spaces and lines -/

/-- A space or a tab. -/
def isSpace (c : Char) : Bool :=
  c == ' ' || c == '\t'

/-- Any character but a control character; tabs count as no control here. -/
def isPlain (c : Char) : Bool :=
  c == '\t' || decide (0x20 ≤ c.toNat) && c.toNat != 0x7f

/-- Leaves out spaces. -/
def skipSpace (cs : List Char) : List Char :=
  cs.dropWhile isSpace

/-- Leaves out one line break. -/
def newline? : List Char → Option (List Char)
  | '\n' :: rest => some rest
  | '\r' :: '\n' :: rest => some rest
  | _ => none

/-- Leaves out a comment, if one starts here. -/
def skipComment : List Char → List Char
  | '#' :: rest => rest.dropWhile isPlain
  | cs => cs

/-- Leaves out the rest of a line, which may hold spaces and a comment; the document may end
here. -/
def endLine? (cs : List Char) : Option (List Char) :=
  match skipComment (skipSpace cs) with
  | [] => some []
  | rest => newline? rest

/-- Leaves out spaces, comments and line breaks; `commented` says that a comment is going on. -/
def skipBlankFrom (commented : Bool) : List Char → List Char
  | [] => []
  | '\n' :: rest => skipBlankFrom false rest
  | '\r' :: '\n' :: rest => skipBlankFrom false rest
  | c :: rest =>
    if commented then
      if isPlain c then skipBlankFrom true rest else c :: rest
    else if isSpace c then skipBlankFrom false rest
    else if c = '#' then skipBlankFrom true rest
    else c :: rest

/-- Leaves out spaces, comments and line breaks. -/
def skipBlank (cs : List Char) : List Char :=
  skipBlankFrom false cs

/-! ## Strings -/

/-- Puts a character in front of what is read after it. -/
def prepend (c : Option Char) (read : Option (List Char × List Char)) :
    Option (List Char × List Char) :=
  match c, read with
  | some c, some (cs, rest) => some (c :: cs, rest)
  | _, _ => none

/-- The character whose code point is given in hexadecimal. -/
def codePoint? (digits : List Char) : Option Char :=
  let code := Decimal.digitsValue 16 digits
  if digits.all (Decimal.isDigitOf 16) && decide code.isValidChar then some (Char.ofNat code)
  else none

/-- The character that a letter stands for after a backslash. -/
def escape? : Char → Option Char
  | 'b' => some '\x08'
  | 't' => some '\t'
  | 'n' => some '\n'
  | 'f' => some '\x0c'
  | 'r' => some '\r'
  | '"' => some '"'
  | '\\' => some '\\'
  | _ => none

/-- The rest of a string between double quotes. -/
def basicRest : Reader (List Char)
  | [] => none
  | '"' :: rest => some ([], rest)
  | '\\' :: 'u' :: a :: b :: c :: d :: rest =>
    prepend (codePoint? [a, b, c, d]) (basicRest rest)
  | '\\' :: 'U' :: a :: b :: c :: d :: e :: f :: g :: h :: rest =>
    prepend (codePoint? [a, b, c, d, e, f, g, h]) (basicRest rest)
  | '\\' :: c :: rest => prepend (escape? c) (basicRest rest)
  | c :: rest => if isPlain c then prepend (some c) (basicRest rest) else none

/-- The rest of a string between single quotes, where nothing is escaped. -/
def literalRest : Reader (List Char)
  | [] => none
  | '\'' :: rest => some ([], rest)
  | c :: rest => if isPlain c then prepend (some c) (literalRest rest) else none

/-- A backslash at the end of a line: only spaces stand between it and the line break. -/
def endsLine (cs : List Char) : Bool :=
  (newline? (skipSpace cs)).isSome

/-- The rest of a string between three double quotes.  Up to two quotes may stand in front of the
closing three.  After a backslash at the end of a line, spaces and line breaks are left out up to
the next other character; `joining` says that this is going on. -/
def multiBasicRest (joining : Bool) : Reader (List Char)
  | [] => none
  | '"' :: '"' :: '"' :: '"' :: '"' :: rest => some (['"', '"'], rest)
  | '"' :: '"' :: '"' :: '"' :: rest => some (['"'], rest)
  | '"' :: '"' :: '"' :: rest => some ([], rest)
  | '\r' :: '\n' :: rest =>
    if joining then multiBasicRest true rest else prepend (some '\n') (multiBasicRest false rest)
  | '\n' :: rest =>
    if joining then multiBasicRest true rest else prepend (some '\n') (multiBasicRest false rest)
  | '\\' :: 'u' :: a :: b :: c :: d :: rest =>
    prepend (codePoint? [a, b, c, d]) (multiBasicRest false rest)
  | '\\' :: 'U' :: a :: b :: c :: d :: e :: f :: g :: h :: rest =>
    prepend (codePoint? [a, b, c, d, e, f, g, h]) (multiBasicRest false rest)
  | '\\' :: c :: rest =>
    match escape? c with
    | some escaped => prepend (some escaped) (multiBasicRest false rest)
    | none => if endsLine (c :: rest) then multiBasicRest true (c :: rest) else none
  | c :: rest =>
    if joining && isSpace c then multiBasicRest true rest
    else if isPlain c then prepend (some c) (multiBasicRest false rest)
    else none

/-- The rest of a string between three single quotes. -/
def multiLiteralRest : Reader (List Char)
  | [] => none
  | '\'' :: '\'' :: '\'' :: '\'' :: '\'' :: rest => some (['\'', '\''], rest)
  | '\'' :: '\'' :: '\'' :: '\'' :: rest => some (['\''], rest)
  | '\'' :: '\'' :: '\'' :: rest => some ([], rest)
  | '\r' :: '\n' :: rest => prepend (some '\n') (multiLiteralRest rest)
  | '\n' :: rest => prepend (some '\n') (multiLiteralRest rest)
  | c :: rest => if isPlain c then prepend (some c) (multiLiteralRest rest) else none

/-- Leaves out a line break that directly follows the opening of a string of several lines. -/
def skipFirstBreak (cs : List Char) : List Char :=
  (newline? cs).getD cs

/-- A string, in any notation. -/
def string : Reader String := fun cs =>
  let read :=
    match cs with
    | '"' :: '"' :: '"' :: rest => multiBasicRest false (skipFirstBreak rest)
    | '\'' :: '\'' :: '\'' :: rest => multiLiteralRest (skipFirstBreak rest)
    | '"' :: rest => basicRest rest
    | '\'' :: rest => literalRest rest
    | _ => none
  read.map fun (text, rest) => (String.ofList text, rest)

end SlotPool.Toml
