import Outbox.Text

/-!
# Identifiers

An identifier is a number of 128 bits. Its canonical text has 32 lower-case hexadecimal digits in
groups of 8, 4, 4, 4 and 12, so that the order of texts is the order of numbers. Three further
spellings are read: the digits without hyphens, and the canonical text in braces or after `urn:uuid:`.
-/

namespace Outbox

/-- A number of 128 bits. -/
structure Identifier where
  bits : BitVec 128
  deriving DecidableEq, Repr

namespace Identifier

instance : Inhabited Identifier := ⟨⟨0⟩⟩

/-- The number that orders identifiers. -/
def number (i : Identifier) : Nat :=
  i.bits.toNat

/-- Why a text is no identifier. -/
inductive Malformed
  /-- The text has no spelling of this many bytes. -/
  | length (bytes : Nat)
  /-- A character that is neither a digit nor a hyphen, with its position in bytes. -/
  | character (found : Char) (position : Nat)
  /-- The hyphens make another number of groups than five. -/
  | groupCount (found : Nat)
  /-- A group has another number of digits than it should. -/
  | groupLength (group expected found : Nat)
  deriving DecidableEq, Repr

/-- What is said of a text that is no identifier. -/
def Malformed.message : Malformed → String
  | .length n => s!"invalid length: found {n}"
  | .character c n => "invalid character: found `" ++ c.toString ++ s!"` at {n}"
  | .groupCount n => s!"invalid group count: expected 5, found {n}"
  | .groupLength g e n => s!"invalid group length in group {g}: expected {e}, found {n}"

/-- The lengths of the groups of the canonical text. -/
def groupLengths : List Nat :=
  [8, 4, 4, 4, 12]

/-- Digits in groups of the given lengths, with a hyphen between them. -/
def hyphenate : List Nat → List Char → List Char
  | [], _ => []
  | [n], ds => ds.take n
  | n :: ns, ds => ds.take n ++ '-' :: hyphenate ns (ds.drop n)

/-- The canonical text, as characters. -/
def chars (i : Identifier) : List Char :=
  hyphenate groupLengths (Text.hex 32 i.number)

/-- The canonical text. -/
def toText (i : Identifier) : String :=
  String.ofList i.chars

/-- The digits of a text whose hyphens stand exactly between groups of the given lengths. -/
def dehyphenate : List Nat → List Char → Option (List Char)
  | [], cs => if cs.isEmpty then some [] else none
  | [n], cs => if cs.length = n then some cs else none
  | n :: ns, cs =>
    match cs.drop n with
    | '-' :: rest => (dehyphenate ns rest).map (cs.take n ++ ·)
    | _ => none

/-- The identifier of exactly 32 hexadecimal digits. -/
def ofDigits (ds : List Char) : Option Identifier :=
  if ds.length = 32 then (Text.ofHex ds).map fun n => ⟨BitVec.ofNat 128 n⟩ else none

/-- What a text in braces holds between them. -/
def unbraced? : List Char → Option (List Char)
  | '{' :: cs => if cs.getLast? = some '}' then some cs.dropLast else none
  | _ => none

/-- What follows `urn:uuid:`, in any letter case. -/
def afterUrn? (cs : List Char) : Option (List Char) :=
  let scheme := ['u', 'r', 'n', ':', 'u', 'u', 'i', 'd', ':']
  if (cs.take scheme.length).map Char.toLower = scheme then some (cs.drop scheme.length) else none

/-- What a text wraps, with the bytes that stand before it; a plain text wraps itself. -/
def unwrap (cs : List Char) : List Char × Nat :=
  match unbraced? cs with
  | some inner => (inner, 1)
  | none =>
    match afterUrn? cs with
    | some inner => (inner, 9)
    | none => (cs, 0)

/-- The identifier of a text in one of the four spellings. -/
def ofChars? (cs : List Char) : Option Identifier :=
  match ofDigits cs with
  | some i => some i
  | none => (dehyphenate groupLengths (unwrap cs).1).bind ofDigits

/-- The first character that is neither a digit nor a hyphen, with its position in bytes. -/
def strayFrom (position : Nat) : List Char → Option (Char × Nat)
  | [] => none
  | c :: cs =>
    if c = '-' ∨ (Text.hexValue? c).isSome then strayFrom (position + c.utf8Size) cs
    else some (c, position)

/-- The positions of the hyphens. -/
def hyphensFrom (position : Nat) : List Char → List Nat
  | [] => []
  | c :: cs =>
    let later := hyphensFrom (position + c.utf8Size) cs
    if c = '-' then position :: later else later

/-- The first group of the wrong length, for hyphens that make five groups. The last group is
measured from where it should start to the end of the whole text. -/
def misplacedGroup (bytes : Nat) : (group start : Nat) → List Nat → List Nat → Malformed
  | group, start, n :: ns, h :: hs =>
    if h = start + n then misplacedGroup bytes (group + 1) (start + n + 1) ns hs
    else .groupLength group n (h - start)
  | group, start, n :: _, [] => .groupLength group n (bytes - start)
  | group, start, [], _ => .groupLength group 0 (bytes - start)

/-- The fault of grouped digits, of which a whole text of so many bytes consists but for what stands
before and after them. Positions start at `origin`. Only a `bare` text may leave out all hyphens. -/
def faultIn (bytes origin : Nat) (bare : Bool) (cs : List Char) : Malformed :=
  match strayFrom origin cs with
  | some (c, n) => .character c n
  | none =>
    let hyphens := hyphensFrom 0 cs
    if hyphens.isEmpty && bare then .length bytes
    else if hyphens.length ≠ 4 then .groupCount (hyphens.length + 1)
    else misplacedGroup bytes 0 0 groupLengths hyphens

/-- The bytes of the canonical text. -/
def canonicalLength : Nat :=
  36

/-- The fault of a text that is no identifier. A text as long as the canonical one is taken for it as
it stands. Inside a wrapped text the positions are those of the canonical text if it is as long as
that, and of the whole text if not. -/
def fault (cs : List Char) : Malformed :=
  let bytes := Text.byteLength cs
  if bytes = 0 ∨ 45 < bytes then .length bytes
  else if bytes = canonicalLength then faultIn bytes 0 false cs
  else
    let (inner, before) := unwrap cs
    let origin := if Text.byteLength inner = canonicalLength then 0 else before
    faultIn bytes origin (before = 0) inner

/-- Reads an identifier in any of its spellings. -/
def parse (s : String) : Except Malformed Identifier :=
  match ofChars? s.toList with
  | some i => .ok i
  | none => .error (fault s.toList)

/-- Orders identifiers by their numbers. -/
def compare (a b : Identifier) : Ordering :=
  Ord.compare a.number b.number

/-- What an identifier names, as messages call it. -/
inductive Role
  /-- A business entity. -/
  | aggregate
  /-- A record of the outbox. -/
  | record
  deriving DecidableEq, Repr

/-- What messages call the role. -/
def Role.name : Role → String
  | .aggregate => "AggregateId"
  | .record => "OutboxId"

/-- A text was given for an identifier and is none. -/
structure Invalid where
  role : Role
  cause : Malformed
  deriving DecidableEq, Repr

/-- What is said of a text that is no identifier of its role. -/
def Invalid.message (e : Invalid) : String :=
  s!"invalid identifier: {e.role.name}: {e.cause.message}"

/-- Reads the identifier of something. -/
def parseAs (role : Role) (s : String) : Except Invalid Identifier :=
  (parse s).mapError (⟨role, ·⟩)

/-- The version of an identifier: its thirteenth hexadecimal digit. -/
def version (i : Identifier) : Nat :=
  (i.number >>> 76) % 16

/-- The identifier of version 7 with a time stamp of 48 bits and a counter of 74 bits. -/
def stamped (milliseconds counter : Nat) : Identifier :=
  ⟨BitVec.ofNat 48 milliseconds ++ BitVec.ofNat 4 7 ++ BitVec.ofNat 12 (counter >>> 62) ++
    BitVec.ofNat 2 2 ++ BitVec.ofNat 62 counter⟩

/-- A source of fresh identifiers. -/
structure Mint where
  /-- The identifiers that it makes, one after another. -/
  coin : Nat → Identifier
  /-- How many it has made. -/
  made : Nat := 0

/-- The source whose identifiers are of version 7 and all carry one time stamp. -/
def Mint.stamped (milliseconds : Nat) : Mint where
  coin n := Identifier.stamped milliseconds (n + 1)

/-- The next fresh identifier. -/
def Mint.next (m : Mint) : Identifier × Mint :=
  (m.coin m.made, { m with made := m.made + 1 })

/-- The next `n` fresh identifiers. -/
def Mint.take (m : Mint) : Nat → List Identifier × Mint
  | 0 => ([], m)
  | n + 1 =>
    let (i, m) := m.next
    let (is, m) := Mint.take m n
    (i :: is, m)

end Identifier

end Outbox
