import Outbox.Json.Reader

/-!
# JSON values

Values as trees, their compact text, and a reader for them. Members keep the order in which they
are written.
-/

namespace Outbox.Json

/-- A JSON value. Numbers are whole, or else the texts of their shortest decimals. -/
inductive Value
  | null
  | boolean (b : Bool)
  | integer (n : Int)
  | decimal (text : String)
  | text (s : String)
  | list (items : List Value)
  | object (members : List (String × Value))
  deriving Repr, Inhabited

namespace Value

/-- The member of an object with a key. -/
def member? : Value → String → Option Value
  | .object members, key => members.lookup key
  | _, _ => none

/-- The text, if the value is one. -/
def text? : Value → Option String
  | .text s => some s
  | _ => none

/-- The whole number, if the value is one. -/
def integer? : Value → Option Int
  | .integer n => some n
  | _ => none

/-- The truth value, if the value is one. -/
def boolean? : Value → Option Bool
  | .boolean b => some b
  | _ => none

/-- The items, if the value is a list. -/
def list? : Value → Option (List Value)
  | .list items => some items
  | _ => none

/-- A list of texts. -/
def texts (ss : List String) : Value :=
  .list (ss.map .text)

/-- A value, or null. -/
def ofOption {α : Type} (f : α → Value) : Option α → Value
  | none => .null
  | some a => f a

end Value

mutual

/-- The compact text of a value. -/
def Value.chars : Value → List Char
  | .null => ['n', 'u', 'l', 'l']
  | .boolean true => ['t', 'r', 'u', 'e']
  | .boolean false => ['f', 'a', 'l', 's', 'e']
  | .integer n => (toString n).toList
  | .decimal s => s.toList
  | .text s => textChars s.toList
  | .list items => '[' :: Value.itemChars items ++ [']']
  | .object members => '\x7b' :: Value.memberChars members ++ ['\x7d']

/-- Values with commas between them. -/
def Value.itemChars : List Value → List Char
  | [] => []
  | [v] => v.chars
  | v :: vs => v.chars ++ ',' :: Value.itemChars vs

/-- Members with commas between them. -/
def Value.memberChars : List (String × Value) → List Char
  | [] => []
  | [(k, v)] => textChars k.toList ++ ':' :: v.chars
  | (k, v) :: ms => textChars k.toList ++ ':' :: v.chars ++ ',' :: Value.memberChars ms

end

/-- The compact text of a value. -/
def Value.render (v : Value) : String :=
  String.ofList v.chars

/-- A number that was read, as a value. -/
def Number.value : Number → Value
  | .natural n => .integer n
  | .negative n => .integer n
  | .floating f => .decimal (Decimal.ofFloat f)

/-- An unfinished list or object that a value is read into, the last part first. -/
inductive Frame
  | list (items : List Value)
  /-- The key is that of the member whose value comes next. -/
  | object (members : List (String × Value)) (key : String)

/-- Reads a key and its colon. -/
def readKey : Reader String := do
  match ← peekPastGaps with
  | some '"' => advance
  | none => failHere .endOfValue
  | some _ => failAhead .keyMustBeText
  let key ← readChars
  match ← peekPastGaps with
  | some ':' => advance; return String.ofList key
  | none => failHere .endOfObject
  | some _ => failAhead .expectedColon

/-- What was read of a value: all of it, or the bracket that it starts with. -/
inductive Opening
  | done (v : Value)
  | list
  | object

/-- Reads a value without parts, or the bracket that starts another one. -/
def readScalar : Reader Opening := do
  match ← peekPastGaps with
  | none => failHere .endOfValue
  | some 'n' => advance; restOfWord ['u', 'l', 'l']; return .done .null
  | some 't' => advance; restOfWord ['r', 'u', 'e']; return .done (.boolean true)
  | some 'f' => advance; restOfWord ['a', 'l', 's', 'e']; return .done (.boolean false)
  | some '"' => advance; return .done (.text (String.ofList (← readChars)))
  | some '[' => advance; return .list
  | some '\x7b' => advance; return .object
  | some '-' => advance; return .done (← readNumber true).value
  | some c =>
    if c.isDigit then return .done (← readNumber false).value else failAhead .expectedValue

/-- The greatest depth to which values nest. -/
def depthLimit : Nat :=
  127

/-- Reads on inside some open brackets, in at most `fuel` steps: a value when there is none to put
into the innermost bracket. -/
def readFor : (fuel : Nat) → Option Value → List Frame → Reader Value
  | 0, _, _ => failHere .endOfValue
  | _ + 1, some v, [] => return v
  | fuel + 1, some v, .list items :: frames => do
    match ← peekPastGaps with
    | none => failHere .endOfList
    | some ']' => advance; readFor fuel (some (.list (v :: items).reverse)) frames
    | some ',' => advance; readFor fuel none (.list (v :: items) :: frames)
    | some _ => failAhead .expectedListCommaOrEnd
  | fuel + 1, some v, .object members key :: frames => do
    match ← peekPastGaps with
    | none => failHere .endOfObject
    | some '\x7d' => advance; readFor fuel (some (.object ((key, v) :: members).reverse)) frames
    | some ',' =>
      advance
      let next ← readKey
      readFor fuel none (.object ((key, v) :: members) next :: frames)
    | some _ => failAhead .expectedObjectCommaOrEnd
  | fuel + 1, none, frames => do
    match ← readScalar with
    | .done v => readFor fuel (some v) frames
    | .list =>
      if depthLimit ≤ frames.length then failHere (.misspelt "recursion limit exceeded")
      else
        match ← peekPastGaps with
        | some ']' => advance; readFor fuel (some (.list [])) frames
        | _ => readFor fuel none (.list [] :: frames)
    | .object =>
      if depthLimit ≤ frames.length then failHere (.misspelt "recursion limit exceeded")
      else
        match ← peekPastGaps with
        | some '\x7d' => advance; readFor fuel (some (.object [])) frames
        | _ => readFor fuel none (.object [] (← readKey) :: frames)

/-- Reads a value. -/
def readValue : Reader Value := fun c =>
  readFor (2 * c.rest.length + 2) none [] c

/-- The value of a text, if it has one. -/
def Value.ofText? (text : String) : Option Value :=
  (read readValue text).toOption

end Outbox.Json
