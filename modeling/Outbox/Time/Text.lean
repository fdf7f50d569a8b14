import Outbox.Text
import Outbox.Time.Clock

/-!
# Time texts

Instants are written in the form of RFC 3339, always for UTC, with the fewest of 0, 3, 6 or 9
digits after the second that lose nothing. More spellings are read: blanks between the parts, one
digit where two are usual, and any offset from UTC.
-/

namespace Outbox.Time

/-- A number with at least `width` digits. -/
def padded (width n : Nat) : List Char :=
  let ds := Nat.toDigits 10 n
  List.replicate (width - ds.length) '0' ++ ds

/-- A year: four digits from 0 to 9999, else a sign and at least four digits. -/
def yearText (y : Int) : List Char :=
  if 0 ≤ y ∧ y ≤ 9999 then padded 4 y.toNat
  else (if y < 0 then '-' else '+') :: padded 4 y.natAbs

/-- The digits after the second, with their point. -/
def fractionText (n : Nat) : List Char :=
  if n = 0 then []
  else if n % 1000000 = 0 then '.' :: padded 3 (n / 1000000)
  else if n % 1000 = 0 then '.' :: padded 6 (n / 1000)
  else '.' :: padded 9 n

namespace Instant

/-- The text of an instant, as characters. A leap second is the second 60 of its minute. -/
def chars (t : Instant) : List Char :=
  let d := Date.ofNumber t.day
  let leap := if t.isLeap then 1 else 0
  yearText d.year ++ '-' :: padded 2 d.month ++ '-' :: padded 2 d.day ++ 'T' ::
    padded 2 (t.second / 3600) ++ ':' :: padded 2 (t.second / 60 % 60) ++ ':' ::
    padded 2 (t.second % 60 + leap) ++ fractionText (t.nanosecond % 1000000000) ++ ['Z']

/-- The text of an instant. -/
def toText (t : Instant) : String :=
  String.ofList t.chars

/-- Why a text is no instant. -/
inductive Malformed
  /-- A part, or the whole, lies outside its range. -/
  | outOfRange
  /-- The date and time exist, but not in UTC. -/
  | impossible
  /-- The text stops too early. -/
  | tooShort
  /-- A part has the wrong characters. -/
  | invalid
  /-- Something follows the time. -/
  | tooLong
  deriving DecidableEq, Repr

/-- What is said of a text that is no instant. -/
def Malformed.message : Malformed → String
  | .outOfRange => "input is out of range"
  | .impossible => "no possible date and time matching input"
  | .tooShort => "premature end of input"
  | .invalid => "input contains invalid characters"
  | .tooLong => "trailing input"

/-- Reads a part of a time text off the front of what is left of it. -/
abbrev Reader :=
  StateT (List Char) (Except Malformed)

/-- Passes over blanks. -/
def readBlanks : Reader Unit :=
  modify Text.trimFront

/-- Reads a number of at least one and at most `width` digits. A number that does not fit into 63
bits is out of range. -/
def readNumber (width : Nat) : Reader Nat := fun cs =>
  let ds := (cs.take width).takeWhile Char.isDigit
  if cs.isEmpty then .error .tooShort
  else if ds.isEmpty then .error .invalid
  else
    let n := Nat.ofDigitChars 10 ds 0
    if n < 9223372036854775808 then .ok (n, cs.drop ds.length) else .error .outOfRange

/-- Reads a number after blanks and checks its range. -/
def readField (width low high : Nat) : Reader Nat := do
  readBlanks
  let n ← readNumber width
  if low ≤ n ∧ n ≤ high then return n else throw .outOfRange

/-- Reads one of some characters. -/
def readMark (marks : List Char) : Reader Unit
  | [] => .error .tooShort
  | c :: cs => if c ∈ marks then .ok ((), cs) else .error .invalid

/-- Reads a year: up to four digits, or a sign and any number of digits. -/
def readYear : Reader Int := fun cs =>
  match Text.trimFront cs with
  | '-' :: cs => do
    let (n, rest) ← (readNumber cs.length).run cs
    if n ≤ 2147483648 then .ok (-(n : Int), rest) else .error .outOfRange
  | '+' :: cs => do
    let (n, rest) ← (readNumber cs.length).run cs
    if n < 2147483648 then .ok ((n : Int), rest) else .error .outOfRange
  | cs => do
    let (n, rest) ← (readNumber 4).run cs
    .ok ((n : Int), rest)

/-- Reads the digits after a point as nanoseconds; those after the ninth are passed over. -/
def readFraction : Reader Nat
  | '.' :: cs => do
    let (n, rest) ← (readNumber 9).run cs
    .ok (n * Nat.pow 10 (9 - (cs.length - rest.length)), rest.dropWhile Char.isDigit)
  | cs => .ok (0, cs)

/-- Reads two digits, the first of them below `bound`. -/
def readPair (bound : Nat) : Reader Nat
  | [] => .error .tooShort
  | [c] => .error (if c.utf8Size = 1 then .tooShort else .invalid)
  | c :: d :: cs =>
    if c.isDigit ∧ d.isDigit then
      let n := Nat.ofDigitChars 10 [c, d] 0
      if n < bound * 10 then .ok (n, cs) else .error .outOfRange
    else .error .invalid

/-- Reads hours and minutes with any colons and blanks between them, as minutes. -/
def readHoursMinutes : Reader Int := do
  let hours ← readPair 10
  modify (·.dropWhile fun c => c = ':' || Text.isBlank c)
  let minutes ← readPair 6
  return (hours * 60 + minutes : Nat)

/-- Reads an offset from UTC, in minutes. -/
def readOffset : Reader Int := fun cs =>
  if (cs.take 3).map Char.toUpper = ['U', 'T', 'C'] then .ok (0, cs.drop 3)
  else
    match cs with
    | [] => .error .tooShort
    | c :: cs =>
      if c = 'Z' ∨ c = 'z' then .ok (0, cs)
      else if c = '+' then readHoursMinutes.run cs
      else if c = '-' ∨ c = '\u2212' then (do return -(← readHoursMinutes)).run cs
      else .error .invalid

/-- The parts of a time text. -/
structure Parts where
  date : Date
  hour : Nat
  minute : Nat
  second : Nat
  nanosecond : Nat
  /-- Minutes ahead of UTC. -/
  offset : Int

/-- Reads the parts of a time text. -/
def readParts : Reader Parts := do
  let year ← readYear
  readBlanks
  readMark ['-']
  let month ← readField 2 1 12
  readBlanks
  readMark ['-']
  let day ← readField 2 1 31
  readMark ['T', 't', ' ']
  let hour ← readField 2 0 23
  readBlanks
  readMark [':']
  let minute ← readField 2 0 59
  readBlanks
  readMark [':']
  let second ← readField 2 0 60
  let nanosecond ← readFraction
  readBlanks
  let offset ← readOffset
  return ⟨⟨year, month, day⟩, hour, minute, second, nanosecond, offset⟩

/-- The instant that the parts stand for. -/
def ofParts (p : Parts) : Except Malformed Instant :=
  let number := p.date.number
  if ¬ p.date.Valid ∨ number < firstDay ∨ lastDay < number then .error .outOfRange
  else if p.offset ≤ -1440 ∨ 1440 ≤ p.offset then .error .outOfRange
  else
    let leap := if p.second = 60 then 1 else 0
    let wall : Int := p.hour * 3600 + p.minute * 60 + (p.second - leap : Nat)
    let utc := wall - p.offset * 60
    match of? (number + utc / 86400) (utc % 86400).toNat (p.nanosecond + leap * 1000000000) with
    | some t => .ok t
    | none => .error .impossible

/-- Reads an instant. -/
def ofChars (cs : List Char) : Except Malformed Instant := do
  let (parts, cs) ← readParts.run cs
  if (Text.trimFront cs).isEmpty then ofParts parts else .error .tooLong

/-- Reads an instant. -/
def parse (s : String) : Except Malformed Instant :=
  ofChars s.toList

end Instant

end Outbox.Time
