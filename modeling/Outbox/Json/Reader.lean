import Outbox.Json.Cursor

/-!
# Strings, numbers and values

The parts of a JSON text, each of which is read for what it says or only passed over.
-/

/-!
## JSON strings

Written strings escape the quote, the backslash and control characters, and nothing else. Read
strings may escape any character; one beyond the first 65536 is escaped as two surrogates. A string
that is only passed over is not checked for unpaired surrogates.
-/

namespace Outbox.Json

/-- A character of a written string. -/
def escaped (c : Char) : List Char :=
  if c = '"' then ['\\', '"']
  else if c = '\\' then ['\\', '\\']
  else if c = '\x08' then ['\\', 'b']
  else if c = '\x0c' then ['\\', 'f']
  else if c = '\n' then ['\\', 'n']
  else if c = '\r' then ['\\', 'r']
  else if c = '\t' then ['\\', 't']
  else if c.toNat < 0x20 then ['\\', 'u'] ++ Text.hex 4 c.toNat
  else [c]

/-- A string as it is written. -/
def textChars (cs : List Char) : List Char :=
  '"' :: cs.flatMap escaped ++ ['"']

/-- Reads the four digits of an escape. -/
def readUnit : Reader Nat := fun c =>
  let ds := c.rest.take 4
  match ds.length, Text.ofHex ds with
  | 4, some n => .ok (n, c.skip 4)
  | _, _ =>
    if c.remaining < 4 then .error ⟨.endOfText, c.offset + c.remaining⟩
    else .error ⟨.invalidEscape, c.offset + 4⟩

/-- Whether a unit is the first half of a surrogate pair. -/
def isHighSurrogate (n : Nat) : Bool :=
  0xd800 ≤ n && n ≤ 0xdbff

/-- Whether a unit is the second half of a surrogate pair. -/
def isLowSurrogate (n : Nat) : Bool :=
  0xdc00 ≤ n && n ≤ 0xdfff

/-- Reads a character that has to follow in the escape of a surrogate pair. -/
def readInPair (x : Char) : Reader Unit := do
  match ← peek with
  | none => failHere .endOfText
  | some c => if c = x then advance else failAhead .unfinishedSurrogate

/-- Reads the character that is escaped by its code point, after `\u`. -/
def readCodePoint : Reader Char := do
  let n ← readUnit
  if isLowSurrogate n then failHere .loneSurrogate
  else if isHighSurrogate n then
    readInPair '\\'
    readInPair 'u'
    let m ← readUnit
    if isLowSurrogate m then return Char.ofNat ((n - 0xd800) * 0x400 + (m - 0xdc00) + 0x10000)
    else failHere .loneSurrogate
  else return Char.ofNat n

/-- The character that a letter after a backslash stands for. -/
def shortEscape? : Char → Option Char
  | '"' => some '"'
  | '\\' => some '\\'
  | '/' => some '/'
  | 'b' => some '\x08'
  | 'f' => some '\x0c'
  | 'n' => some '\n'
  | 'r' => some '\r'
  | 't' => some '\t'
  | _ => none

/-- Reads an escape after its backslash. -/
def readEscape : Reader Char := do
  match ← peek with
  | none => failHere .endOfText
  | some 'u' => advance; readCodePoint
  | some c =>
    match shortEscape? c with
    | some x => advance; return x
    | none => failAhead .invalidEscape

/-- Passes over an escape after its backslash. -/
def passEscape : Reader Unit := do
  match ← peek with
  | none => failHere .endOfText
  | some 'u' => advance; discard readUnit
  | some c => if (shortEscape? c).isSome then advance else failAhead .invalidEscape

/-- Whether a character stands for itself in a string. -/
def isPlain (c : Char) : Bool :=
  c ≠ '"' && c ≠ '\\' && 0x20 ≤ c.toNat

/-- Reads the characters of a string up to its closing quote, for a text of fewer than `fuel`
characters; those read before are in `done`, the last one first. -/
def readCharsFor : (fuel : Nat) → (done : List Char) → Reader (List Char)
  | 0, _ => failHere .endOfText
  | fuel + 1, done => do
    match ← peek with
    | none => failHere .endOfText
    | some '"' => advance; return done.reverse
    | some '\\' =>
      advance
      let x ← readEscape
      readCharsFor fuel (x :: done)
    | some c =>
      if isPlain c then
        advance
        readCharsFor fuel (c :: done)
      else failAhead .controlCharacter

/-- Reads a string after its opening quote. -/
def readChars : Reader (List Char) := fun c =>
  readCharsFor (c.rest.length + 1) [] c

/-- Passes over the characters of a string up to its closing quote, for a text of fewer than `fuel`
characters. -/
def passCharsFor : (fuel : Nat) → Reader Unit
  | 0 => failHere .endOfText
  | fuel + 1 => do
    match ← peek with
    | none => failHere .endOfText
    | some '"' => advance
    | some '\\' => advance; passEscape; passCharsFor fuel
    | some c =>
      if isPlain c then do advance; passCharsFor fuel
      else failHere .controlCharacter

/-- Passes over a string after its opening quote. -/
def passChars : Reader Unit := fun c =>
  passCharsFor (c.rest.length + 1) c

end Outbox.Json

/-!
## JSON numbers

A number is whole when it has no point and no exponent and fits into 64 bits; every other number is
read as a floating-point number. The digits of such a number count as far as they fit into 64 bits,
and its exponent is applied by at most one multiplication or division by a power of ten at a time.
A number that is only passed over may have any size.
-/

namespace Outbox.Json

/-- A number that was read. -/
inductive Number
  /-- At least 0 and below 2^64. -/
  | natural (n : Nat)
  /-- Below 0 and at least -2^63. -/
  | negative (n : Int)
  | floating (f : Float)

/-- What messages say was found when it is a number. -/
def Number.found : Number → Found
  | .natural n => .integer n
  | .negative n => .integer n
  | .floating f => .floating f

/-- A decimal `digits · 10 ^ exponent` that is being read. -/
structure Significand where
  digits : Nat
  exponent : Int

/-- The leading digits whose number, after `n`, stays below 2^64, and how many digits are left. -/
def fitting (n : Nat) : List Char → Nat × List Char
  | [] => (n, [])
  | c :: cs =>
    let m := n * 10 + (c.toNat - 48)
    if m < UInt64.size then fitting m cs else (n, c :: cs)

/-- The floating-point number of a decimal, or nothing when it is too large. -/
def scaledFor : (fuel : Nat) → Float → Int → Option Float
  | 0, f, _ => some f
  | fuel + 1, f, e =>
    if e.natAbs ≤ 308 then
      if 0 ≤ e then
        let g := f * Float.ofScientific 1 false e.toNat
        if g.isInf then none else some g
      else some (f / Float.ofScientific 1 false e.natAbs)
    else if f == 0.0 then some f
    else if 0 ≤ e then none
    else scaledFor fuel (f / 1e308) (e + 308)

/-- The floating-point number of a decimal with its sign. -/
def floatOf (negative : Bool) (s : Significand) : Reader Number := do
  match scaledFor (s.exponent.natAbs / 308 + 1) s.digits.toFloat s.exponent with
  | some f => return .floating (if negative then -f else f)
  | none => failHere .numberOutOfRange

/-- The greatest exponent that is read as such. -/
def greatestExponent : Nat :=
  2147483647

/-- The shortest part of some digits whose number passes the greatest exponent, or all of them. -/
def exponentDigits (n read : Nat) : List Char → Nat × Nat
  | [] => (n, read)
  | c :: cs =>
    let m := n * 10 + (c.toNat - 48)
    if m ≤ greatestExponent then exponentDigits m (read + 1) cs else (m, read + 1)

/-- Keeps an exponent within 32 bits. -/
def clampExponent (e : Int) : Int :=
  max (-2147483648) (min 2147483647 e)

/-- Reads an exponent after its letter. -/
def readExponent (negative : Bool) (s : Significand) : Reader Number := do
  let sign ← peek
  if sign = some '+' ∨ sign = some '-' then advance
  let down := sign = some '-'
  match ← peek with
  | none => failHere .endOfValue
  | some c =>
    if ¬ c.isDigit then failAhead .invalidNumber
    else fun cursor =>
      let ds := cursor.rest.takeWhile Char.isDigit
      let (e, read) := exponentDigits 0 0 ds
      if e ≤ greatestExponent then
        let change : Int := if down then -(e : Int) else e
        floatOf negative ⟨s.digits, clampExponent (s.exponent + change)⟩ (cursor.skip ds.length)
      else if s.digits ≠ 0 ∧ ¬ down then failHere .numberOutOfRange (cursor.skip read)
      else .ok (.floating (if negative then -0.0 else 0.0), cursor.skip ds.length)

/-- Reads the end of a number: an exponent, if there is one. -/
def readScale (negative : Bool) (s : Significand) : Reader Number := do
  match ← peek with
  | some 'e' | some 'E' => advance; readExponent negative s
  | _ => floatOf negative s

/-- Reads the digits after a point. -/
def readFraction (negative : Bool) (s : Significand) : Reader Number := do
  let ds ← digits
  if ds.isEmpty then
    match ← peek with
    | none => failHere .endOfValue
    | some _ => failAhead .invalidNumber
  else
    let (n, left) := fitting s.digits ds
    readScale negative ⟨n, s.exponent - (ds.length - left.length : Nat)⟩

/-- Reads a number after its sign. -/
def readNumber (negative : Bool) : Reader Number := do
  match ← peek with
  | none => failHere .endOfValue
  | some c =>
    if ¬ c.isDigit then failAhead .invalidNumber
    else if c = '0' then
      advance
      match ← peek with
      | some d => if d.isDigit then failAhead .invalidNumber else whole 0 []
      | none => whole 0 []
    else
      let ds ← digits
      let (n, left) := fitting 0 ds
      whole n left
where
  /-- What follows the whole part, of which some digits may not have fitted. -/
  whole (n : Nat) (left : List Char) : Reader Number := do
    match ← peek with
    | some '.' => advance; readFraction negative ⟨n, left.length⟩
    | some 'e' | some 'E' => advance; readExponent negative ⟨n, left.length⟩
    | _ =>
      if ¬ left.isEmpty then floatOf negative ⟨n, left.length⟩
      else if ¬ negative then return .natural n
      else if 0 < n ∧ n ≤ 9223372036854775808 then return .negative (-(n : Int))
      else return .floating (-n.toFloat)

/-- Passes over an exponent after its letter. -/
def passExponent : Reader Unit := do
  let sign ← peek
  if sign = some '+' ∨ sign = some '-' then advance
  let ds ← digits
  if ds.isEmpty then failAhead .invalidNumber

/-- Passes over the digits after a point. -/
def passFraction : Reader Unit := do
  let ds ← digits
  if ds.isEmpty then failAhead .invalidNumber
  else
    match ← peek with
    | some 'e' | some 'E' => advance; passExponent
    | _ => return ()

/-- Passes over a number after its sign. -/
def passNumber : Reader Unit := do
  let first ← peek
  let ds ← digits
  if ds.isEmpty then failAhead .invalidNumber
  else if first = some '0' ∧ 1 < ds.length then fun c => failZero ds c
  else
    match ← peek with
    | some '.' => advance; passFraction
    | some 'e' | some 'E' => advance; passExponent
    | _ => return ()
where
  /-- A digit after a leading zero is at fault. -/
  failZero (ds : List Char) (c : Cursor) : Except Fault (Unit × Cursor) :=
    .error ⟨.invalidNumber, c.offset - ds.length + 2⟩

end Outbox.Json

/-!
## Passing over JSON values

A value that nobody asked for is passed over: its form is checked, its content is not. Open brackets
are kept on a stack, so that values may nest without limit.
-/

namespace Outbox.Json

/-- A bracket that is open. -/
inductive Bracket
  | list
  | object
  deriving DecidableEq, Repr

/-- The character that closes the bracket. -/
def Bracket.closing : Bracket → Char
  | .list => ']'
  | .object => '\x7d'

/-- The fault of a text that ends inside the bracket. -/
def Bracket.ended : Bracket → Cause
  | .list => .endOfList
  | .object => .endOfObject

/-- The fault of a text that goes on inside the bracket without a comma. -/
def Bracket.unseparated : Bracket → Cause
  | .list => .expectedListCommaOrEnd
  | .object => .expectedObjectCommaOrEnd

/-- What the next character has to start. -/
inductive Step
  /-- A value. -/
  | value
  /-- The first item of a bracket, or its end. -/
  | first
  /-- A comma, or the end of a bracket. -/
  | next
  deriving DecidableEq, Repr

/-- Passes over a key and its colon. -/
def passKey : Reader Unit := do
  match ← peekPastGaps with
  | none => failHere .endOfObject
  | some '"' => advance; passChars
  | some _ => failAhead .keyMustBeText
  match ← peekPastGaps with
  | none => failHere .endOfObject
  | some ':' => advance
  | some _ => failAhead .expectedColon

/-- Passes over what comes before an item of a bracket. -/
def Bracket.passLabel : Bracket → Reader Unit
  | .list => pure ()
  | .object => passKey

/-- Passes over a value without parts; a bracket is only opened. -/
def passScalar : Reader (Option Bracket) := do
  match ← peekPastGaps with
  | none => failHere .endOfValue
  | some 'n' => advance; restOfWord ['u', 'l', 'l']; return none
  | some 't' => advance; restOfWord ['r', 'u', 'e']; return none
  | some 'f' => advance; restOfWord ['a', 'l', 's', 'e']; return none
  | some '"' => advance; passChars; return none
  | some '[' => advance; return some .list
  | some '\x7b' => advance; return some .object
  | some '-' => advance; passNumber; return none
  | some c => if c.isDigit then do passNumber; return none else failAhead .expectedValue

/-- Passes over the rest of a value inside some open brackets, in at most `fuel` steps. -/
def passFor : (fuel : Nat) → Step → List Bracket → Reader Unit
  | 0, _, _ => failHere .endOfValue
  | fuel + 1, .value, stack => do
    match ← passScalar with
    | some b => passFor fuel .first (b :: stack)
    | none => passFor fuel .next stack
  | _ + 1, _, [] => pure ()
  | fuel + 1, step, b :: stack => do
    match ← peekPastGaps with
    | none => failHere b.ended
    | some c =>
      if c = b.closing then
        advance
        passFor fuel .next stack
      else if step = .first then
        b.passLabel
        passFor fuel .value (b :: stack)
      else if c = ',' then
        advance
        b.passLabel
        passFor fuel .value (b :: stack)
      else failAhead b.unseparated

/-- Passes over a value. -/
def passValue : Reader Unit := fun c =>
  passFor (2 * c.rest.length + 2) .value [] c

end Outbox.Json
