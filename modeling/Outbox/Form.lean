import Outbox.Identifier
import Outbox.Json.Value
import Outbox.Time.Text

/-!
# Forms

A form is a named list of typed fields; an entry fills every field of a form with a value of its
kind. Records, settings and messages are entries of forms, which is what their JSON texts follow.
-/

namespace Outbox.Form

/-- What a field holds. -/
inductive Kind
  | identifier
  | text
  | boolean
  /-- A whole number of 32 bits. -/
  | word32
  /-- A whole number of 64 bits. -/
  | word64
  /-- A whole number of 64 bits that counts things. -/
  | size
  /-- A number of 64 bits with a sign. -/
  | integer
  | instant
  /-- A value of another kind, or nothing. -/
  | optional (kind : Kind)
  deriving DecidableEq, Repr

/-- The values of a kind. -/
def Kind.Carrier : Kind → Type
  | .identifier => Identifier
  | .text => String
  | .boolean => Bool
  | .word32 => UInt32
  | .word64 => UInt64
  | .size => UInt64
  | .integer => Int64
  | .instant => Time.Instant
  | .optional kind => Option kind.Carrier

/-- Decides whether two values of a kind are equal. -/
def Kind.decEq : (k : Kind) → DecidableEq k.Carrier
  | .identifier => inferInstanceAs (DecidableEq Identifier)
  | .text => inferInstanceAs (DecidableEq String)
  | .boolean => inferInstanceAs (DecidableEq Bool)
  | .word32 => inferInstanceAs (DecidableEq UInt32)
  | .word64 => inferInstanceAs (DecidableEq UInt64)
  | .size => inferInstanceAs (DecidableEq UInt64)
  | .integer => inferInstanceAs (DecidableEq Int64)
  | .instant => inferInstanceAs (DecidableEq Time.Instant)
  | .optional kind =>
    letI := kind.decEq
    inferInstanceAs (DecidableEq (Option kind.Carrier))

instance (k : Kind) : DecidableEq k.Carrier :=
  k.decEq

/-- What a field holds when an object leaves it out: nothing, if it may hold nothing. -/
def Kind.blank : (k : Kind) → Option k.Carrier
  | .optional _ => some none
  | _ => none

/-- A field of a form. -/
structure Field where
  name : String
  kind : Kind
  /-- Its value in an object that leaves it out. -/
  omitted : Option kind.Carrier := kind.blank
  /-- Its value in a list that ends before it. -/
  unlisted : Option kind.Carrier := none

/-- A field that falls back to a value wherever it is not given. -/
def Field.withDefault (name : String) (kind : Kind) (value : kind.Carrier) : Field :=
  ⟨name, kind, some value, some value⟩

/-- A value for each of some fields. -/
def Entry : List Field → Type
  | [] => Unit
  | f :: fs => f.kind.Carrier × Entry fs

/-- Decides whether two entries are equal. -/
def Entry.decEq : (fs : List Field) → DecidableEq (Entry fs)
  | [] => inferInstanceAs (DecidableEq Unit)
  | f :: fs =>
    letI := Entry.decEq fs
    inferInstanceAs (DecidableEq (f.kind.Carrier × Entry fs))

instance (fs : List Field) : DecidableEq (Entry fs) :=
  Entry.decEq fs

end Form

/-- A named list of fields. -/
structure Form where
  name : String
  fields : List Form.Field

/-- The entries of a form. -/
abbrev Form.Filled (form : Form) : Type :=
  Form.Entry form.fields

end Outbox

/-!
## Writing entries

An entry is written as a compact JSON object of all its fields, in the order of the form.
-/

namespace Outbox.Form

/-- A whole number in decimal digits, with its sign if it is negative. -/
def integerChars (n : Int) : List Char :=
  if n < 0 then '-' :: Nat.toDigits 10 n.natAbs else Nat.toDigits 10 n.natAbs

/-- A value as it is written. -/
def Kind.chars : (k : Kind) → k.Carrier → List Char
  | .identifier, (i : Identifier) => Json.textChars i.chars
  | .text, (s : String) => Json.textChars s.toList
  | .boolean, true => ['t', 'r', 'u', 'e']
  | .boolean, false => ['f', 'a', 'l', 's', 'e']
  | .word32, (n : UInt32) => Nat.toDigits 10 n.toNat
  | .word64, (n : UInt64) => Nat.toDigits 10 n.toNat
  | .size, (n : UInt64) => Nat.toDigits 10 n.toNat
  | .integer, (n : Int64) => integerChars n.toInt
  | .instant, (t : Time.Instant) => Json.textChars t.chars
  | .optional _, none => ['n', 'u', 'l', 'l']
  | .optional k, some v => k.chars v

/-- A field's name and value as they are written. -/
def Field.chars (f : Field) (v : f.kind.Carrier) : List Char :=
  Json.textChars f.name.toList ++ ':' :: f.kind.chars v

/-- The names and values of some fields as they are written. -/
def Entry.members : (fs : List Field) → Entry fs → List (List Char)
  | [], () => []
  | f :: fs, (v, e) => f.chars v :: members fs e

/-- The text of an entry. -/
def write (form : Form) (e : form.Filled) : String :=
  String.ofList ('\x7b' :: [','].intercalate (Entry.members form.fields e) ++ ['\x7d'])

end Outbox.Form

/-!
## Entries as JSON values

The value that the text of an entry spells: an object of all its fields, in the order of the form.
-/

namespace Outbox.Form

/-- A value of a kind as a JSON value. -/
def Kind.json : (k : Kind) → k.Carrier → Json.Value
  | .identifier, (i : Identifier) => .text i.toText
  | .text, (s : String) => .text s
  | .boolean, (b : Bool) => .boolean b
  | .word32, (n : UInt32) => .integer n.toNat
  | .word64, (n : UInt64) => .integer n.toNat
  | .size, (n : UInt64) => .integer n.toNat
  | .integer, (n : Int64) => .integer n.toInt
  | .instant, (t : Time.Instant) => .text t.toText
  | .optional _, none => .null
  | .optional k, some v => k.json v

/-- The members of an object for some fields. -/
def Entry.jsonMembers : (fs : List Field) → Entry fs → List (String × Json.Value)
  | [], () => []
  | f :: fs, (v, e) => (f.name, f.kind.json v) :: jsonMembers fs e

/-- An entry as a JSON value. -/
def json (form : Form) (e : form.Filled) : Json.Value :=
  .object (Entry.jsonMembers form.fields e)

end Outbox.Form

/-!
## Reading entries

An entry is read from a JSON object with its fields in any order, among others that are passed over,
or from a list of its values in the order of the form. The first fault in the order of the text
is the one that counts; only when all of the object or list was read does a missing value count.
-/

namespace Outbox.Form

open Json

/-- Fails at a value that is not of the expected kind. -/
def mismatch {α : Type} (expected : String) : Reader α := do
  match ← peekPastGaps with
  | none => failHere .endOfValue
  | some 'n' =>
    advance
    restOfWord ['u', 'l', 'l']
    failHere (.invalidType .null expected)
  | some 't' =>
    advance
    restOfWord ['r', 'u', 'e']
    failHere (.invalidType (.boolean true) expected)
  | some 'f' =>
    advance
    restOfWord ['a', 'l', 's', 'e']
    failHere (.invalidType (.boolean false) expected)
  | some '"' =>
    advance
    let s ← readChars
    failHere (.invalidType (.text (String.ofList s)) expected)
  | some '[' => failHere (.invalidType .sequence expected)
  | some '\x7b' => failHere (.invalidType .map expected)
  | some '-' =>
    advance
    let n ← readNumber true
    failHere (.invalidType n.found expected)
  | some c =>
    if c.isDigit then do
      let n ← readNumber false
      failHere (.invalidType n.found expected)
    else failAhead .expectedValue

/-- Reads a string and what it spells. -/
def readSpelling {α : Type} (expected : String) (spell : List Char → Except String α) :
    Reader α := do
  match ← peekPastGaps with
  | some '"' =>
    advance
    match spell (← readChars) with
    | .ok a => return a
    | .error reason => failHere (.misspelt reason)
  | _ => mismatch expected

/-- Reads a whole number that lies in the range of a kind. -/
def readWhole {α : Type} (expected : String) (fit : Int → Option α) : Reader α := do
  match ← peekPastGaps with
  | some '-' =>
    advance
    settle (← readNumber true)
  | some c => if c.isDigit then do settle (← readNumber false) else mismatch expected
  | none => mismatch expected
where
  /-- The number, if it is whole and in range. -/
  settle : Number → Reader α
    | .natural n => (fit n).elim (failHere (.invalidValue (.integer n) expected)) pure
    | .negative n => (fit n).elim (failHere (.invalidValue (.integer n) expected)) pure
    | .floating f => failHere (.invalidType (.floating f) expected)

/-- Reads a truth value. -/
def readBoolean : Reader Bool := do
  match ← peekPastGaps with
  | some 't' => advance; restOfWord ['r', 'u', 'e']; return true
  | some 'f' => advance; restOfWord ['a', 'l', 's', 'e']; return false
  | _ => mismatch "a boolean"

/-- The word of 32 bits that equals a number. -/
def word32? (n : Int) : Option UInt32 :=
  if 0 ≤ n ∧ n.toNat < UInt32.size then some (UInt32.ofNat n.toNat) else none

/-- The word of 64 bits that equals a number. -/
def word64? (n : Int) : Option UInt64 :=
  if 0 ≤ n ∧ n.toNat < UInt64.size then some (UInt64.ofNat n.toNat) else none

/-- The number of 64 bits with a sign that equals a number. -/
def int64? (n : Int) : Option Int64 :=
  if -9223372036854775808 ≤ n ∧ n < 9223372036854775808 then some (Int64.ofInt n) else none

/-- The identifier that a text spells. -/
def spellIdentifier (cs : List Char) : Except String Identifier :=
  match Identifier.ofChars? cs with
  | some i => .ok i
  | none => .error ("UUID parsing failed: " ++ (Identifier.fault cs).message)

/-- The instant that a text spells. -/
def spellInstant (cs : List Char) : Except String Time.Instant :=
  (Time.Instant.ofChars cs).mapError Time.Instant.Malformed.message

/-- Reads a value of a kind. -/
def Kind.read : (k : Kind) → Reader k.Carrier
  | .identifier => readSpelling "a formatted UUID string" spellIdentifier
  | .text => readSpelling "a string" fun cs => .ok (String.ofList cs)
  | .boolean => readBoolean
  | .word32 => readWhole "u32" word32?
  | .word64 => readWhole "u64" word64?
  | .size => readWhole "usize" word64?
  | .integer => readWhole "i64" int64?
  | .instant => readSpelling "an RFC 3339 formatted date and time string" spellInstant
  | .optional k => do
    match ← peekPastGaps with
    | some 'n' => advance; restOfWord ['u', 'l', 'l']; return none
    | _ => return some (← k.read)

/-- The values of some fields as far as they were read. -/
def Slots : List Field → Type
  | [] => Unit
  | f :: fs => Option f.kind.Carrier × Slots fs

/-- No value yet. -/
def Slots.empty : (fs : List Field) → Slots fs
  | [] => ()
  | _ :: fs => (none, empty fs)

/-- Reads the colon after a key. -/
def readColon : Reader Unit := do
  match ← peekPastGaps with
  | some ':' => advance
  | none => failHere .endOfObject
  | some _ => failAhead .expectedColon

/-- Passes over blanks and the bracket that ends an object or list, if it comes next. -/
def passEnd (bracket : Char) : Reader Unit := do
  if (← peekPastGaps) = some bracket then advance

/-- The reader of the field with a key, which fills its slot; nothing if there is no such field. -/
def Slots.member : (fs : List Field) → Slots fs → (key : String) → Option (Reader (Slots fs))
  | [], (), _ => none
  | f :: fs, (slot, slots), key =>
    if f.name = key then
      some do
        if slot.isSome then
          passEnd '\x7d'
          failHere (.duplicateField f.name)
        readColon
        return (some (← f.kind.read), slots)
    else
      (member fs slots key).map fun reader => return (slot, ← reader)

/-- The entry of the filled slots, or the first field that has no value. -/
def Slots.complete : (fs : List Field) → Slots fs → Except String (Entry fs)
  | [], () => .ok ()
  | f :: fs, (slot, slots) => do
    match slot <|> f.omitted with
    | some v => return (v, ← complete fs slots)
    | none => .error f.name

/-- Reads a member of an object from its opening quote. -/
def readMember (fs : List Field) (slots : Slots fs) : Reader (Slots fs) := do
  advance
  let key := String.ofList (← readChars)
  match slots.member fs key with
  | some reader => reader
  | none =>
    readColon
    passValue
    return slots

/-- Reads the members of an object up to its closing bracket, at most `fuel` of them. -/
def readMembers (fs : List Field) : (fuel : Nat) → (first : Bool) → Slots fs → Reader (Slots fs)
  | 0, _, _ => failHere .endOfObject
  | fuel + 1, first, slots => do
    match ← peekPastGaps with
    | none => failHere .endOfObject
    | some '\x7d' => return slots
    | some c =>
      if first then
        if c = '"' then readMembers fs fuel false (← readMember fs slots)
        else failAhead .keyMustBeText
      else if c = ',' then
        advance
        match ← peekPastGaps with
        | some '"' => readMembers fs fuel false (← readMember fs slots)
        | some '\x7d' => failAhead .trailingComma
        | some _ => failAhead .keyMustBeText
        | none => failHere .endOfValue
      else failAhead .expectedObjectCommaOrEnd

/-- Reads an object after its opening bracket. -/
def readObject (fs : List Field) : Reader (Entry fs) := do
  let room := (← get).rest.length + 1
  let slots ← readMembers fs room true (Slots.empty fs)
  passEnd '\x7d'
  match slots.complete fs with
  | .ok e => return e
  | .error name => failHere (.missingField name)

/-- Whether another item follows in a list. -/
def anotherItem (first : Bool) : Reader Bool := do
  match ← peekPastGaps with
  | none => failHere .endOfList
  | some ']' => return false
  | some c =>
    if first then return true
    else if c = ',' then
      advance
      match ← peekPastGaps with
      | none => failHere .endOfValue
      | some ']' => failAhead .trailingComma
      | some _ => return true
    else failAhead .expectedListCommaOrEnd

/-- Reads the items of a list, of which `index` came before. -/
def readItems (expected : String) : (fs : List Field) → (index : Nat) → Reader (Entry fs)
  | [], _ => return ()
  | f :: fs, index => do
    if ← anotherItem (index = 0) then
      let v ← f.kind.read
      return (v, ← readItems expected fs (index + 1))
    else
      match f.unlisted with
      | some v => return (v, ← readItems expected fs (index + 1))
      | none =>
        passEnd ']'
        failHere (.invalidLength index expected)

/-- Reads the end of a list. -/
def readListEnd : Reader Unit := do
  match ← peekPastGaps with
  | none => failHere .endOfList
  | some ']' => advance
  | some ',' =>
    advance
    match ← peekPastGaps with
    | some ']' => failAhead .trailingComma
    | _ => failAhead .trailingCharacters
  | some _ => failAhead .trailingCharacters

/-- How messages call a form. -/
def title (form : Form) : String :=
  "struct " ++ form.name

/-- How messages call a form of a number of fields. -/
def sizedTitle (form : Form) : String :=
  let n := form.fields.length
  title form ++ " with " ++ toString n ++ (if n = 1 then " element" else " elements")

/-- Reads an entry of a form. -/
def reader (form : Form) : Reader form.Filled := do
  match ← peekPastGaps with
  | some '\x7b' => advance; readObject form.fields
  | some '[' =>
    advance
    let e ← readItems (sizedTitle form) form.fields 0
    readListEnd
    return e
  | _ => mismatch (title form)

/-- Reads the text of an entry. -/
def parse (form : Form) (text : String) : Except Report form.Filled :=
  Json.read (reader form) text

end Outbox.Form
