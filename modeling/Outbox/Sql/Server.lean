import Outbox.Sql.Statement
import Outbox.Store

/-!
# Database servers

What a program sees of a database: it sends commands, in a transaction or outside of one, and gets
rows or counts back, or a fault. `Fault.during` tells which error of the store a fault becomes.
-/

namespace Outbox.Sql

/-- A row as it is sent back: its values by the names of their columns, null where there is none. -/
abbrev Sent := String → Value

/-- What a server sends back. -/
inductive Response
  | rows (rs : List Sent)
  /-- How many rows were changed. -/
  | affected (n : Nat)

/-- The rows of a response. -/
def Response.sentRows : Response → List Sent
  | rows rs => rs
  | affected _ => []

/-- How many rows a response says were changed. -/
def Response.count : Response → Nat
  | rows rs => rs.length
  | affected n => n

/-- Why there is no usable response. -/
inductive Fault
  /-- The database refused the command. -/
  | database (code : Option String) (reason : String)
  /-- The program has closed its connections. -/
  | closed
  /-- The network between program and database failed. -/
  | communication (reason : String)
  /-- There is no row where there has to be one. -/
  | noRow
  /-- A column does not hold what it has to. -/
  | column (name : String) (reason : String)
  deriving DecidableEq

namespace Fault

/-- What is said of a fault. -/
def message : Fault → String
  | database _ reason => "error returned from database: " ++ reason
  | closed => "attempted to acquire a connection on a closed pool"
  | communication reason => "error communicating with database: " ++ reason
  | noRow => "no rows returned by a query that expected to return at least one row"
  | column name reason =>
    "error occurred while decoding column " ++ Text.quoted name ++ ": " ++ reason

/-- The error of the store that a fault during some operation becomes. -/
def during (operation : String) : Fault → Store.Error
  | database code reason =>
    .storage ("database error in " ++ operation ++ " (" ++ code.getD "" ++ "): " ++ reason)
  | closed => .storage ("connection pool closed during " ++ operation)
  | f => .storage (operation ++ " failed: " ++ f.message)

/-- Whether a fault says that a row with the key is there already. -/
def isDuplicate : Fault → Bool
  | database (some code) _ => code = "23505"
  | _ => false

/-- The fault of a column that is empty but must not be. -/
def unexpectedNull (name : String) : Fault :=
  column name "unexpected null; try decoding as an `Option`"

/-- The fault of a column that holds a value of another type. -/
def mismatched (name : String) : Fault :=
  column name "mismatched types"

end Fault

/-- A database in a world of type `ω`, with transactions of type `τ`. -/
structure Server (ω τ : Type) where
  execute : Command → ω → Except Fault Response × ω
  start : ω → Except Fault τ × ω
  executeIn : Command → τ → ω → Except Fault Response × τ × ω
  commit : τ → ω → Except Fault Unit × ω
  rollback : τ → ω → Except Fault Unit × ω

/-- A database that gives every command the same fault. -/
def Server.failing (ω τ : Type) (f : Fault) : Server ω τ where
  execute _ w := (.error f, w)
  start w := (.error f, w)
  executeIn _ t w := (.error f, t, w)
  commit _ w := (.error f, w)
  rollback _ w := (.error f, w)

namespace Sent

/-- Reads a column that is never empty. -/
def plain {α : Type} (r : Sent) (name : String) (read? : Value → Option α) : Except Fault α :=
  match r name with
  | .null => .error (.unexpectedNull name)
  | v =>
    match read? v with
    | some a => .ok a
    | none => .error (.mismatched name)

/-- Reads a column that may be empty. -/
def optional {α : Type} (r : Sent) (name : String) (read? : Value → Option α) :
    Except Fault (Option α) :=
  match r name with
  | .null => .ok none
  | v =>
    match read? v with
    | some a => .ok (some a)
    | none => .error (.mismatched name)

end Sent

namespace Value

/-- The identifier, if the value is one. -/
def uuid? : Value → Option Identifier
  | uuid id => some id
  | _ => none

/-- The text, if the value is one. -/
def text? : Value → Option String
  | text s => some s
  | _ => none

/-- The truth value, if the value is one. -/
def boolean? : Value → Option Bool
  | boolean b => some b
  | _ => none

/-- The integer, if the value is one. -/
def integer? : Value → Option Int
  | integer n => some n
  | _ => none

/-- The instant, if the value is a time in the range of instants. -/
def instant? : Value → Option Time.Instant
  | timestamp n => Sql.instant? n
  | _ => none

end Value

/-- The count that a number of 32 bits with a sign stands for; none that is negative. -/
def countOf (n : Int) : UInt32 :=
  if n < 0 then 0 else UInt32.ofNat n.toNat

/-- Reads a record from a row, column by column. -/
def readRecord (r : Sent) : Except Fault Record := do
  let id ← r.plain "id" Value.uuid?
  let typeTag ← r.plain "type_tag" Value.text?
  let payload ← r.plain "payload" Value.text?
  let occurredAt ← r.plain "occurred_at" Value.instant?
  let processed ← r.plain "processed" Value.boolean?
  let processedAt ← r.optional "processed_at" Value.instant?
  let error ← r.optional "error" Value.text?
  let retryCount ← r.plain "retry_count" Value.integer?
  let deadLetteredAt ← r.optional "dead_lettered_at" Value.instant?
  let nextAttemptAt ← r.optional "next_attempt_at" Value.instant?
  return { id, typeTag, payload, occurredAt, processed, processedAt, error,
           retryCount := countOf retryCount, deadLetteredAt, nextAttemptAt }

end Outbox.Sql

/-!
## What statements do

A database in memory that does what SQL says of the statements: conditions that are neither true nor
false leave a row out, a statement changes all its rows or none, and no two records have one
identifier. What it refuses is a second row of one identifier, a negative limit and a retry count
that leaves its range.
-/

namespace Outbox.Sql

/-- A row of the table of entities. -/
structure EntityRow where
  aggregateType : Value
  aggregateId : Value
  version : Value
  state : Value

/-- The tables of a database. -/
structure Tables where
  records : List Row := []
  entities : List EntityRow := []

namespace Row

/-- The row of a record. -/
def ofRecord (r : Record) : Row
  | .id => .uuid r.id
  | .typeTag => .text r.typeTag
  | .payload => .text r.payload
  | .occurredAt => .ofInstant r.occurredAt
  | .processed => .boolean r.processed
  | .processedAt => .ofOption .ofInstant r.processedAt
  | .error => .ofOption .text r.error
  | .retryCount => .ofCount r.retryCount
  | .deadLetteredAt => .ofOption .ofInstant r.deadLetteredAt
  | .nextAttemptAt => .ofOption .ofInstant r.nextAttemptAt

/-- The row of parameters, one a column. -/
def ofParameters (ps : Parameters) : Row := fun c =>
  ps.getD (Column.all.idxOf c) .null

/-- The row as it is sent back. -/
def sent (r : Row) : Sent := fun name =>
  match Column.all.find? (·.name = name) with
  | some c => r c
  | none => .null

/-- Whether one row comes before another, or may: by time, then by identifier. -/
def isBefore (a b : Row) : Bool :=
  match (a .occurredAt).order? (b .occurredAt) with
  | some .lt => true
  | some .eq => (a .id).order? (b .id) ≠ some .gt
  | _ => false

/-- Whether a row has the identifier of another one. -/
def sameId (a b : Row) : Bool :=
  (a .id).order? (b .id) = some .eq

end Row

namespace Assigned

/-- What a column of a row is set to, unless that leaves the range of its type. -/
def value (r : Row) (ps : Parameters) (c : Column) : Assigned → Except Fault Value
  | parameter n => .ok (ps.get n)
  | boolean b => .ok (.boolean b)
  | null => .ok .null
  | increment =>
    match r c with
    | .integer n =>
      if n < 2147483647 then .ok (.integer (n + 1))
      else .error (.database (some "22003") "integer out of range")
    | v => .ok v

/-- The row after some assignments, all of which read the row before. -/
def apply (r : Row) (ps : Parameters) : List (Column × Assigned) → Except Fault Row
  | [] => .ok r
  | (c, a) :: more => do
    let v ← a.value r ps c
    let changed ← apply r ps more
    return changed.set c v

end Assigned

/-- The rows after an update, and how many of them it changed. -/
def updated (assignments : List (Column × Assigned)) (condition : Condition) (ps : Parameters) :
    List Row → Except Fault (List Row × Nat)
  | [] => .ok ([], 0)
  | r :: rs => do
    let (rs, n) ← updated assignments condition ps rs
    if condition.holds ps r then
      let r ← Assigned.apply r ps assignments
      return (r :: rs, n + 1)
    else return (r :: rs, n)

/-- The rows under a condition, the oldest first and no more of them than a limit says. -/
def selected (rows : List Row) (condition : Condition) (limit : Option Nat) (ps : Parameters) :
    Except Fault (List Row) :=
  let found := rows.filter (condition.holds ps)
  match limit with
  | none => .ok found
  | some n =>
    match ps.get n with
    | .integer n =>
      if n < 0 then .error (.database (some "2201W") "LIMIT must not be negative")
      else .ok ((found.mergeSort Row.isBefore).take n.toNat)
    | _ => .ok (found.mergeSort Row.isBefore)

/-- The counts of the rows under some conditions, by their names. -/
def counted (rows : List Row) (filters : List (Condition × String)) (ps : Parameters) : Sent :=
  fun name =>
    match filters.find? (·.2 = name) with
    | some (condition, _) => .integer (rows.countP (condition.holds ps))
    | none => .null

/-- The entities with one more, or with another one in the place of that with its key. -/
def savedEntity (es : List EntityRow) (e : EntityRow) : List EntityRow :=
  let same (f : EntityRow) : Bool :=
    f.aggregateType.order? e.aggregateType = some .eq && f.aggregateId.order? e.aggregateId = some .eq
  if es.any same then es.map fun f => if same f then e else f else es ++ [e]

/-- The tables after a command, and what is sent back. Columns take any value of their kind: a
database also refuses a tag of more than 255 characters and a time outside the years that it can
hold, which is left out here. -/
def Tables.execute (t : Tables) (c : Command) : Except Fault (Response × Tables) :=
  let ps := c.parameters
  match c.statement with
  | .select condition limit => do
    let found ← selected t.records condition limit ps
    return (.rows (found.map Row.sent), t)
  | .update assignments condition => do
    let (records, n) ← updated assignments condition ps t.records
    return (.affected n, { t with records })
  | .insert =>
    let r := Row.ofParameters ps
    if t.records.any r.sameId then
      .error (.database (some "23505")
        "duplicate key value violates unique constraint \"outbox_messages_pkey\"")
    else .ok (.affected 1, { t with records := t.records ++ [r] })
  | .count filters => .ok (.rows [counted t.records filters ps], t)
  | .contains =>
    let found := t.records.any fun r => (r .id).order? (ps.get 1) = some .eq
    .ok (.rows [fun name => if name = "found" then .boolean found else .null], t)
  | .saveEntity =>
    let e : EntityRow := ⟨ps.get 1, ps.get 2, ps.get 3, ps.get 4⟩
    .ok (.affected 1, { t with entities := savedEntity t.entities e })
  | .define _ => .ok (.affected 0, t)

/-- The tables after some commands, of which all or none take effect. -/
def Tables.executeAll (t : Tables) : List Command → Except Fault Tables
  | [] => .ok t
  | c :: cs => do
    let (_, t) ← t.execute c
    t.executeAll cs

/-- The database that consists of its tables. A transaction is the list of its commands so far: it
sees the tables as they would be after these, and the others see nothing before it commits. -/
def Tables.server : Server Tables (List Command) where
  execute c t :=
    match t.execute c with
    | .ok (response, t) => (.ok response, t)
    | .error f => (.error f, t)
  start t := (.ok [], t)
  executeIn c own t :=
    match t.executeAll own with
    | .error f => (.error f, own, t)
    | .ok seen =>
      match seen.execute c with
      | .ok (response, _) => (.ok response, own ++ [c], t)
      | .error f => (.error f, own, t)
  commit own t :=
    match t.executeAll own with
    | .ok t => (.ok (), t)
    | .error f => (.error f, t)
  rollback _ t := (.ok (), t)

end Outbox.Sql
