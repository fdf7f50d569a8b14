import Outbox.Record

/-!
# SQL

The statements that the outbox sends to a database, and the values that they are about.

## Database values

What a column of a table holds and what a parameter of a statement brings. Comparing with a missing
value gives neither true nor false, and the connectives carry that on.
-/

namespace Outbox.Sql

/-- A value of a column or a parameter. -/
inductive Value
  | null
  | uuid (id : Identifier)
  | text (s : String)
  | boolean (b : Bool)
  | integer (n : Int)
  /-- The microseconds since the year 2000. -/
  | timestamp (microseconds : Int)
  | json (v : Json.Value)

namespace Value

/-- Whether a value is there. -/
def isNull : Value → Bool
  | null => true
  | _ => false

/-- A value that may be missing. -/
def ofOption {α : Type} (f : α → Value) : Option α → Value
  | none => null
  | some a => f a

/-- How two values of one type are ordered. -/
def order? : Value → Value → Option Ordering
  | uuid a, uuid b => some (a.compare b)
  | text a, text b => some (compare a b)
  | boolean a, boolean b => some (compare a b)
  | integer a, integer b => some (compare a b)
  | timestamp a, timestamp b => some (compare a b)
  | _, _ => none

end Value

/-- True, false, or neither. -/
abbrev Truth := Option Bool

namespace Truth

/-- Both: false as soon as one is false. -/
def and : Truth → Truth → Truth
  | some false, _ => some false
  | _, some false => some false
  | some true, some true => some true
  | _, _ => none

/-- Either: true as soon as one is true. -/
def or : Truth → Truth → Truth
  | some true, _ => some true
  | _, some true => some true
  | some false, some false => some false
  | _, _ => none

end Truth

/-- The instant from which timestamps are counted. -/
def timestampEpoch : Time.Instant :=
  .startOfDay 10957 (by decide)

/-- The timestamp of an instant. What is finer than a microsecond is cut off, towards the epoch. -/
def microseconds (t : Time.Instant) : Int :=
  (t.elapsed timestampEpoch).nanoseconds.tdiv 1000

/-- The instant of a timestamp. -/
def instant? (microseconds : Int) : Option Time.Instant :=
  Time.Instant.ofTotal? (timestampEpoch.total + microseconds * 1000)

/-- The value of an instant. -/
def Value.ofInstant (t : Time.Instant) : Value :=
  .timestamp (microseconds t)

/-- The value of a count of 32 bits in a column of 32 bits with a sign: the greatest such number
stands for all that are too great. -/
def Value.ofCount (n : UInt32) : Value :=
  .integer (min n.toNat 2147483647)

/-- The value of a number of 64 bits, whose first bit is read as a sign. -/
def Value.ofWord (n : UInt64) : Value :=
  .integer n.toInt64.toInt

end Outbox.Sql

/-!
## Statements

The statements that the outbox sends to a database, as terms with two readings: `text` writes them
in SQL, and the evaluation of conditions and assignments says what they mean for a row.
-/

namespace Outbox.Sql

/-- A column of the table of records. -/
inductive Column
  | id
  | typeTag
  | payload
  | occurredAt
  | processed
  | processedAt
  | error
  | retryCount
  | deadLetteredAt
  | nextAttemptAt
  deriving DecidableEq, Repr

namespace Column

/-- All columns, in the order of the table. -/
def all : List Column :=
  [id, typeTag, payload, occurredAt, processed, processedAt, error, retryCount, deadLetteredAt,
    nextAttemptAt]

/-- How the column is called in statements. -/
def name : Column → String
  | id => "id"
  | typeTag => "type_tag"
  | payload => "payload"
  | occurredAt => "occurred_at"
  | processed => "processed"
  | processedAt => "processed_at"
  | error => "error"
  | retryCount => "retry_count"
  | deadLetteredAt => "dead_lettered_at"
  | nextAttemptAt => "next_attempt_at"

end Column

/-- A row of the table of records. -/
abbrev Row := Column → Value

/-- The row with another value in a column. -/
def Row.set (r : Row) (c : Column) (v : Value) : Row := fun d =>
  if d = c then v else r d

/-- The parameters of a statement. -/
abbrev Parameters := List Value

/-- The parameter of a number, counted from 1. -/
def Parameters.get (ps : Parameters) (n : Nat) : Value :=
  ps.getD (n - 1) .null

/-- What a condition compares. -/
inductive Term
  | column (c : Column)
  | parameter (n : Nat)
  | boolean (b : Bool)
  deriving DecidableEq, Repr

namespace Term

/-- The term in SQL. -/
def text : Term → String
  | column c => c.name
  | parameter n => "$" ++ toString n
  | boolean true => "TRUE"
  | boolean false => "FALSE"

/-- The value of a term for a row. -/
def value (r : Row) (ps : Parameters) : Term → Value
  | column c => r c
  | parameter n => ps.get n
  | boolean b => .boolean b

end Term

/-- How a condition compares. -/
inductive Comparison
  | equal
  | less
  | atMost
  | atLeast
  deriving DecidableEq, Repr

namespace Comparison

/-- The comparison in SQL. -/
def text : Comparison → String
  | equal => "="
  | less => "<"
  | atMost => "<="
  | atLeast => ">="

/-- Whether the comparison holds of values that are ordered in some way. -/
def holds : Comparison → Ordering → Bool
  | equal, o => o = .eq
  | less, o => o = .lt
  | atMost, o => o ≠ .gt
  | atLeast, o => o ≠ .lt

end Comparison

/-- What rows a statement is about. -/
inductive Condition
  | compare (c : Comparison) (left right : Term)
  | isNull (c : Column)
  | isNotNull (c : Column)
  | and (a b : Condition)
  | or (a b : Condition)
  deriving Repr

namespace Condition

/-- The condition in SQL. Both sides of an `or` stand in brackets, for `and` binds more tightly. -/
def text : Condition → String
  | compare c left right => left.text ++ " " ++ c.text ++ " " ++ right.text
  | isNull c => c.name ++ " IS NULL"
  | isNotNull c => c.name ++ " IS NOT NULL"
  | and a b => a.text ++ " AND " ++ b.text
  | or a b => "(" ++ a.text ++ " OR " ++ b.text ++ ")"

/-- Whether the condition holds of a row. -/
def truth (r : Row) (ps : Parameters) : Condition → Truth
  | compare c left right => ((left.value r ps).order? (right.value r ps)).map c.holds
  | isNull c => some (r c).isNull
  | isNotNull c => some !(r c).isNull
  | and a b => (a.truth r ps).and (b.truth r ps)
  | or a b => (a.truth r ps).or (b.truth r ps)

/-- Whether the condition holds for certain. -/
def holds (c : Condition) (ps : Parameters) (r : Row) : Bool :=
  c.truth r ps = some true

/-- All of some conditions. -/
def all : Condition → List Condition → Condition
  | c, [] => c
  | c, d :: ds => all (c.and d) ds

end Condition

/-- What a column is set to. -/
inductive Assigned
  | parameter (n : Nat)
  | boolean (b : Bool)
  | null
  /-- The value before, and one more. -/
  | increment
  deriving DecidableEq, Repr

/-- What a column is set to, in SQL. -/
def Assigned.text (c : Column) : Assigned → String
  | parameter n => "$" ++ toString n
  | boolean true => "TRUE"
  | boolean false => "FALSE"
  | null => "NULL"
  | increment => c.name ++ " + 1"

/-- A statement. -/
inductive Statement
  /-- The rows under a condition; with the number of a limit, the oldest of them in order. -/
  | select (condition : Condition) (limit : Option Nat)
  | update (assignments : List (Column × Assigned)) (condition : Condition)
  /-- A new row of the table of records, one parameter a column. -/
  | insert
  /-- How many rows there are under each of some conditions, and what these counts are called. -/
  | count (filters : List (Condition × String))
  /-- Whether there is a row with an identifier. -/
  | contains
  /-- A row of the table of entities, new or in the place of the one with its key. -/
  | saveEntity
  /-- Something that changes no row. -/
  | define (text : String)

namespace Statement

/-- Some texts with commas between them. -/
def commaSeparated (ss : List String) : String :=
  ", ".intercalate ss

/-- The names of all columns. -/
def columnList : String :=
  commaSeparated (Column.all.map Column.name)

/-- The statement in SQL, with white space squeezed. -/
def text : Statement → String
  | select condition limit =>
    "SELECT " ++ columnList ++ " FROM outbox_messages WHERE " ++ condition.text ++
      match limit with
      | none => ""
      | some n => " ORDER BY occurred_at ASC, id ASC LIMIT $" ++ toString n
  | update assignments condition =>
    "UPDATE outbox_messages SET " ++
      commaSeparated (assignments.map fun (c, a) => c.name ++ " = " ++ a.text c) ++
      " WHERE " ++ condition.text
  | insert =>
    "INSERT INTO outbox_messages ( " ++ columnList ++ " ) VALUES (" ++
      commaSeparated ((List.range Column.all.length).map fun n => "$" ++ toString (n + 1)) ++ ")"
  | count filters =>
    "SELECT " ++
      commaSeparated (filters.map fun (c, name) =>
        "COUNT(*) FILTER (WHERE " ++ c.text ++ ") AS " ++ name) ++
      " FROM outbox_messages"
  | contains => "SELECT EXISTS (SELECT 1 FROM outbox_messages WHERE id = $1) AS found"
  | saveEntity =>
    "INSERT INTO entities (aggregate_type, aggregate_id, version, state) " ++
      "VALUES ($1, $2, $3, $4) ON CONFLICT (aggregate_type, aggregate_id) " ++
      "DO UPDATE SET version = EXCLUDED.version, state = EXCLUDED.state, updated_at = NOW()"
  | define text => text

end Statement

/-- A statement with its parameters. -/
structure Command where
  statement : Statement
  parameters : Parameters := []

end Outbox.Sql
