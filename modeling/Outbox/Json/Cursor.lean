import Outbox.Decimal.Shortest
import Outbox.Text

/-!
# Readers of JSON texts

A reader goes through a text and may find a fault in it, which is shown with its place.
-/

/-!
## Faults of JSON texts

Why a text is not JSON, or not JSON of the expected kind, and where that shows. A fault carries the
number of bytes up to it; `Position.of` turns that into a line and a column.
-/

namespace Outbox.Json

/-- A value that stands where another kind of value is expected. -/
inductive Found
  | null
  | boolean (b : Bool)
  | integer (n : Int)
  | floating (f : Float)
  | text (s : String)
  | sequence
  | map

/-- How messages describe what was found. -/
def Found.describe : Found → String
  | .null => "null"
  | .boolean b => "boolean `" ++ (if b then "true" else "false") ++ "`"
  | .integer n => "integer `" ++ toString n ++ "`"
  | .floating f => "floating point `" ++ Decimal.ofFloat f ++ "`"
  | .text s => "string " ++ Text.quoted s
  | .sequence => "sequence"
  | .map => "map"

/-- Why a text is refused. -/
inductive Cause
  | endOfList
  | endOfObject
  | endOfText
  | endOfValue
  | expectedColon
  | expectedListCommaOrEnd
  | expectedObjectCommaOrEnd
  | expectedIdentifier
  | expectedValue
  | invalidEscape
  | invalidNumber
  | numberOutOfRange
  | controlCharacter
  | keyMustBeText
  /-- An escape of the second half of a surrogate pair without the first. -/
  | loneSurrogate
  /-- An escape of the first half of a surrogate pair without the second. -/
  | unfinishedSurrogate
  | trailingComma
  | trailingCharacters
  | missingField (name : String)
  | duplicateField (name : String)
  | invalidLength (found : Nat) (expected : String)
  | invalidType (found : Found) (expected : String)
  | invalidValue (found : Found) (expected : String)
  /-- A text that does not spell what it should. -/
  | misspelt (reason : String)

/-- What is said of a cause. -/
def Cause.message : Cause → String
  | .endOfList => "EOF while parsing a list"
  | .endOfObject => "EOF while parsing an object"
  | .endOfText => "EOF while parsing a string"
  | .endOfValue => "EOF while parsing a value"
  | .expectedColon => "expected `:`"
  | .expectedListCommaOrEnd => "expected `,` or `]`"
  | .expectedObjectCommaOrEnd => "expected `,` or `\x7d`"
  | .expectedIdentifier => "expected ident"
  | .expectedValue => "expected value"
  | .invalidEscape => "invalid escape"
  | .invalidNumber => "invalid number"
  | .numberOutOfRange => "number out of range"
  | .controlCharacter => "control character (\\u0000-\\u001F) found while parsing a string"
  | .keyMustBeText => "key must be a string"
  | .loneSurrogate => "lone leading surrogate in hex escape"
  | .unfinishedSurrogate => "unexpected end of hex escape"
  | .trailingComma => "trailing comma"
  | .trailingCharacters => "trailing characters"
  | .missingField name => "missing field `" ++ name ++ "`"
  | .duplicateField name => "duplicate field `" ++ name ++ "`"
  | .invalidLength n expected => "invalid length " ++ toString n ++ ", expected " ++ expected
  | .invalidType found expected => "invalid type: " ++ found.describe ++ ", expected " ++ expected
  | .invalidValue found expected => "invalid value: " ++ found.describe ++ ", expected " ++ expected
  | .misspelt reason => reason

/-- A refused text: the cause, and how many of its bytes lead up to it. -/
structure Fault where
  cause : Cause
  offset : Nat

/-- A line, counted from 1, and the bytes of it up to some place. -/
structure Position where
  line : Nat
  column : Nat
  deriving DecidableEq, Repr

/-- The position after one more character. -/
def Position.after (p : Position) (c : Char) : Position :=
  if c = '\n' then ⟨p.line + 1, 0⟩ else ⟨p.line, p.column + c.utf8Size⟩

/-- The position after that many bytes of a text, from a position at its start. -/
def Position.advance (p : Position) : Nat → List Char → Position
  | 0, _ => p
  | _, [] => p
  | n + 1, c :: cs =>
    if c.utf8Size ≤ n + 1 then (p.after c).advance (n + 1 - c.utf8Size) cs
    else ⟨p.line, p.column + n + 1⟩

/-- The position after that many bytes of a text. -/
def Position.of (text : String) (offset : Nat) : Position :=
  Position.advance ⟨1, 0⟩ offset text.toList

/-- What is told about a refused text. -/
structure Report where
  cause : Cause
  position : Position

/-- The fault with its place, as the text shows it. -/
def Fault.report (f : Fault) (text : String) : Report :=
  ⟨f.cause, Position.of text f.offset⟩

/-- What is said of a text that cannot be read, and where. -/
def Report.message (r : Report) : String :=
  r.cause.message ++ s!" at line {r.position.line} column {r.position.column}"

end Outbox.Json

/-!
## Remarks that end in a position

The reason why a value could not be written is a remark of its author. One that ends in a line and
a column is understood as a reason at that position, and shown like one.
-/

namespace Outbox.Json

/-- The text before the last occurrence of `mark`, and the text after it. -/
def splitLast (mark : List Char) : List Char → Option (List Char × List Char)
  | [] => none
  | c :: cs =>
    match splitLast mark cs with
    | some (before, after) => some (c :: before, after)
    | none => if mark.isPrefixOf (c :: cs) then some ([], (c :: cs).drop mark.length) else none

/-- The number of 64 bits that digits stand for. -/
def word? (ds : List Char) : Option Nat :=
  if ds.isEmpty || !ds.all Char.isDigit then none
  else
    let n := Nat.ofDigitChars 10 ds 0
    if n < UInt64.size then some n else none

/-- The reason and the position of a remark that ends in one. -/
def splitPosition (cs : List Char) : Option (List Char × Position) := do
  let (reason, place) ← splitLast " at line ".toList cs
  let line := place.takeWhile Char.isDigit
  let mark := " column ".toList
  guard (mark.isPrefixOf (place.drop line.length))
  return (reason, ⟨← word? line, ← word? ((place.drop line.length).drop mark.length)⟩)

/-- A remark as it is shown. A position in line 0 is not shown. -/
def remark (s : String) : String :=
  match splitPosition s.toList with
  | none => s
  | some (reason, p) =>
    if p.line = 0 then String.ofList reason
    else String.ofList reason ++ s!" at line {p.line} column {p.column}"

end Outbox.Json

/-!
## Reading JSON texts

A cursor is what is left of a text and how many bytes came before it. A reader moves the cursor or
fails with a fault. Two places can be at fault: the byte that was last read (`failHere`) or the one
that was only looked at (`failAhead`).
-/

namespace Outbox.Json

/-- A place in a text. -/
structure Cursor where
  /-- What is left of the text. -/
  rest : List Char
  /-- The bytes before it. -/
  offset : Nat := 0
  deriving DecidableEq, Repr

/-- The cursor after the next character. -/
def Cursor.tail (c : Cursor) : Cursor :=
  match c.rest with
  | [] => c
  | x :: xs => ⟨xs, c.offset + x.utf8Size⟩

/-- The cursor after the next `n` characters. -/
def Cursor.skip : Nat → Cursor → Cursor
  | 0, c => c
  | n + 1, c => c.tail.skip n

/-- The bytes up to and including the next one. -/
def Cursor.ahead (c : Cursor) : Nat :=
  if c.rest.isEmpty then c.offset else c.offset + 1

/-- The bytes that are left. -/
def Cursor.remaining (c : Cursor) : Nat :=
  Text.byteLength c.rest

/-- Reads a value off the front of a text. -/
abbrev Reader :=
  StateT Cursor (Except Fault)

/-- Fails after the bytes read so far. -/
def failHere {α : Type} (cause : Cause) : Reader α := fun c =>
  .error ⟨cause, c.offset⟩

/-- Fails at the next byte. -/
def failAhead {α : Type} (cause : Cause) : Reader α := fun c =>
  .error ⟨cause, c.ahead⟩

/-- The next character, if there is one. -/
def peek : Reader (Option Char) := fun c =>
  .ok (c.rest.head?, c)

/-- Passes over the next character. -/
def advance : Reader Unit := fun c =>
  .ok ((), c.tail)

/-- Whether a character may stand between the parts of a text. -/
def isGap (c : Char) : Bool :=
  c = ' ' || c = '\n' || c = '\t' || c = '\r'

/-- Passes over blanks. -/
def gaps : Reader Unit := fun c =>
  .ok ((), c.skip (c.rest.takeWhile isGap).length)

/-- The next character after blanks, if there is one. -/
def peekPastGaps : Reader (Option Char) := do
  gaps
  peek

/-- Reads the letters of a word after its first. -/
def restOfWord : List Char → Reader Unit
  | [] => pure ()
  | x :: xs => do
    match ← peek with
    | none => failHere .endOfValue
    | some c => if c = x then advance; restOfWord xs else failAhead .expectedIdentifier

/-- Passes over a run of digits. -/
def digits : Reader (List Char) := fun c =>
  let ds := c.rest.takeWhile Char.isDigit
  .ok (ds, c.skip ds.length)

/-- Reads a whole text, and nothing after it but blanks. -/
def wholly {α : Type} (reader : Reader α) : Reader α := do
  let a ← reader
  match ← peekPastGaps with
  | none => return a
  | some _ => failAhead .trailingCharacters

/-- Reads a value from a text. -/
def read {α : Type} (reader : Reader α) (text : String) : Except Report α :=
  match (wholly reader).run ⟨text.toList, 0⟩ with
  | .ok (a, _) => .ok a
  | .error f => .error (f.report text)

end Outbox.Json
