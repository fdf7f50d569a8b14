import Outbox.Text

/-!
# URLs

The hosts that URLs name, and URLs themselves.

## Hosts of URLs

A host is a name, in which the marks that divide a URL must not occur, or an address of 128 bits in
brackets.
-/

namespace Outbox.Url

/-- The parts of a text between some character. -/
def splitOn (stop : Char) : List Char → List (List Char)
  | [] => [[]]
  | c :: cs =>
    if c = stop then [] :: splitOn stop cs
    else
      match splitOn stop cs with
      | [] => [[c]]
      | part :: parts => (c :: part) :: parts

/-- The number that decimal digits spell, if there are digits only. -/
def natural? (cs : List Char) : Option Nat :=
  if cs.isEmpty || !cs.all Char.isDigit then none else some (Nat.ofDigitChars 10 cs 0)

/-- Whether a text is a part of a dotted address, a number below 256 without a leading zero. -/
def isOctet (cs : List Char) : Bool :=
  match natural? cs with
  | some n => n < 256 && (cs.length = 1 || cs.head? ≠ some '0')
  | none => false

/-- Whether a text is a group of an address in brackets, one to four hexadecimal digits. -/
def isGroup (cs : List Char) : Bool :=
  0 < cs.length && cs.length ≤ 4 && cs.all fun c => (Text.hexValue? c).isSome

/-- How many groups of 16 bits some parts of an address in brackets stand for, if each is a group
or, at the end, a dotted address. -/
def groups? : List (List Char) → Option Nat
  | [] => some 0
  | [part] =>
    if part.contains '.' then
      let octets := splitOn '.' part
      if octets.length = 4 && octets.all isOctet then some 2 else none
    else if isGroup part then some 1
    else none
  | part :: parts => if isGroup part then (groups? parts).map (· + 1) else none

/-- The parts of one half of an address in brackets. -/
def halfParts (cs : List Char) : List (List Char) :=
  if cs.isEmpty then [] else splitOn ':' cs

/-- A text cut at its first double colon. -/
def cutDoubleColon? : List Char → Option (List Char × List Char)
  | ':' :: ':' :: cs => some ([], cs)
  | c :: cs => (cutDoubleColon? cs).map fun (before, after) => (c :: before, after)
  | [] => none

/-- Whether a text is an address of 128 bits, in which a double colon stands for groups of zeros. -/
def isLongAddress (cs : List Char) : Bool :=
  match cutDoubleColon? cs with
  | none => groups? (halfParts cs) = some 8
  | some (before, after) =>
    match groups? (halfParts before), groups? (halfParts after) with
    | some m, some n => m + n < 8 && !before.contains '.'
    | _, _ => false

/-- The characters that no name of a host contains. -/
def hostMarks : List Char :=
  ['\x00', ' ', '#', '/', ':', '<', '>', '?', '@', '[', '\\', ']', '^', '|']

/-- Whether a text names a host. -/
def isHost : List Char → Bool
  | '[' :: cs => cs.getLast? = some ']' && isLongAddress cs.dropLast
  | cs => !cs.any hostMarks.contains

end Outbox.Url

/-!
## Schemes, users, paths and queries

A URL names a scheme, perhaps a host with a user and the number of a service, a path and a query.
`Url.parse?` reads one whose scheme gives no meaning of its own to the parts, so that a host may be
any name and a path any text.
-/

namespace Outbox

/-- Who asks, and which host is asked. -/
structure Url.Authority where
  user : List Char
  password : List Char
  host : List Char
  /-- The number of the service on the host, if it is given. -/
  service : Option Nat

/-- A URL. -/
structure Url where
  /-- In lower case. -/
  scheme : String
  authority : Option Url.Authority
  path : List Char
  query : List Char

namespace Url

/-- A text up to the first character of some kind, and the rest from there on. -/
def cut (stops : Char → Bool) (cs : List Char) : List Char × List Char :=
  (cs.takeWhile (!stops ·), cs.dropWhile (!stops ·))

/-- A text cut at the last occurrence of a character: what is before it, and what follows it. -/
def cutLast? (stop : Char) (cs : List Char) : Option (List Char × List Char) :=
  match cut (· = stop) cs.reverse with
  | (after, _ :: before) => some (before.reverse, after.reverse)
  | _ => none

/-- A text without the blanks and controls around it and without line breaks and tabs. -/
def cleaned (cs : List Char) : List Char :=
  let front := cs.dropWhile (· ≤ ' ')
  (front.reverse.dropWhile (· ≤ ' ')).reverse.filter fun c => c ≠ '\t' && c ≠ '\n' && c ≠ '\r'

/-- The scheme of a URL, and what follows its colon. -/
def cutScheme? (cs : List Char) : Option (String × List Char) :=
  match cut (· = ':') cs with
  | (c :: more, ':' :: rest) =>
    if c.isAlpha && more.all fun d => d.isAlphanum || d = '+' || d = '-' || d = '.' then
      some (String.ofList ((c :: more).map Char.toLower), rest)
    else none
  | _ => none

/-- Whether a character ends the part of a URL that names a host. -/
def endsAuthority (c : Char) : Bool :=
  c = '/' || c = '?' || c = '#'

/-- The host in front of the number of a service: a colon in brackets belongs to the host. -/
def cutHost (inBrackets : Bool) : List Char → List Char × List Char
  | [] => ([], [])
  | c :: cs =>
    if c = ':' && !inBrackets then ([], c :: cs)
    else
      let (host, rest) := cutHost (if c = '[' then true else if c = ']' then false else inBrackets) cs
      (c :: host, rest)

/-- The number of a service after a host, below 65536, and what follows it. A backslash ends the
number as a slash does. -/
def cutService? : List Char → Option (Option Nat × List Char)
  | [] => some (none, [])
  | ':' :: cs =>
    let (ds, left) := cut (!·.isDigit) cs
    if left.head?.any (· ≠ '\\') then none
    else if ds.isEmpty then some (none, left)
    else ((natural? ds).filter (· < 65536)).map fun n => (some n, left)
  | _ => none

/-- Reads the part of a URL that names a host; `tail` is what follows it. What is left of the part
begins the path. A URL without a host has nothing else in this part. -/
def authority? (cs tail : List Char) : Option (Authority × List Char) := do
  let (who, place) := (cutLast? '@' cs).getD ([], cs)
  let (user, afterUser) := cut (· = ':') who
  let password := afterUser.drop 1
  let (host, afterHost) := cutHost false place
  let (service, left) ← cutService? afterHost
  if !isHost host then none
  else if host.isEmpty && (!afterHost.isEmpty || !user.isEmpty || !password.isEmpty) then none
  else if host.isEmpty && who.isEmpty && !cs.isEmpty && !tail.isEmpty then none
  else some (⟨user, password, host, service⟩, left)

/-- Reads the part of a URL that names a host, if there is one, off what follows the scheme, and
leaves the path and the query. -/
def cutAuthority? : List Char → Option (Option Authority × List Char)
  | '/' :: '/' :: rest =>
    let (place, tail) := cut endsAuthority rest
    (authority? place tail).map fun (a, left) =>
      (some a, if left.isEmpty then tail else '/' :: left ++ tail)
  | rest => some (none, rest)

/-- Reads a URL. -/
def parse? (s : String) : Option Url := do
  let (scheme, rest) ← cutScheme? (cleaned s.toList)
  let (authority, tail) ← cutAuthority? rest
  let (path, afterPath) := cut (fun c => c = '?' || c = '#') tail
  let query := match afterPath with
    | '?' :: more => (cut (· = '#') more).1
    | _ => []
  return { scheme, authority, path, query }

/-- Whether a part of a path is the letter of a drive, which cannot be left for what is above it. -/
def isDrive : List Char → Bool
  | letter :: mark :: rest =>
    letter.isAlpha && (mark = ':' || mark = '|') && (rest.isEmpty || rest.head? = some '\\')
  | _ => false

/-- The parts of a path without the last one, unless that is the letter of a drive; the last one is
in front. -/
def leave : List (List Char) → List (List Char)
  | [] => []
  | part :: kept => if isDrive part then part :: kept else kept

/-- The parts of a path, of which a dot stands for nothing and two dots take the part before away. -/
def resolved (parts : List (List Char)) : List (List Char) :=
  (parts.foldl (fun kept part =>
    let plain := (String.ofList (part.map Char.toLower)).replace "%2e" "."
    if plain = "." then kept else if plain = ".." then leave kept else part :: kept) []).reverse

/-- The path without slashes around it. -/
def trimmedPath (u : Url) : List Char :=
  let joined := ['/'].intercalate (resolved (splitOn '/' u.path))
  ((joined.dropWhile (· = '/')).reverse.dropWhile (· = '/')).reverse

/-- The bytes that a text spells in which a percent sign starts two hexadecimal digits of a byte. -/
def percentDecoded : List Char → List UInt8
  | [] => []
  | '%' :: a :: b :: cs =>
    match Text.hexValue? a, Text.hexValue? b with
    | some x, some y => UInt8.ofNat (16 * x + y) :: percentDecoded cs
    | _, _ => '%'.toUInt8 :: percentDecoded (a :: b :: cs)
  | c :: cs => (String.singleton c).toUTF8.toList ++ percentDecoded cs

/-- The text that a percent-encoded text spells, if it spells one. -/
def decoded? (cs : List Char) : Option String :=
  String.fromUTF8? (percentDecoded cs).toByteArray

/-- The value of the last member of the query with some name. -/
def queryValue? (u : Url) (name : String) : Option String :=
  (splitOn '&' u.query).foldl (fun found part =>
    let (key, value) := cut (· = '=') part
    let spell (cs : List Char) := decoded? (cs.map fun c => if c = '+' then ' ' else c)
    if spell key = some name then some ((spell (value.drop 1)).getD "") else found) none

end Url

end Outbox
