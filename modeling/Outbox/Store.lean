import Outbox.Record

/-!
# The store

What calls come to, what they are about, and the store that answers them.
-/

/-!
## Answers

What a call to something outside the program comes to: it returns, it fails for a reason, or it
crashes and returns nothing.
-/

namespace Outbox

/-- What a call comes to. -/
inductive Answer (ε α : Type)
  | ok (a : α)
  | error (e : ε)
  /-- The call crashed. -/
  | crash
  deriving DecidableEq, Repr

namespace Answer

variable {ε α β : Type}

/-- An answer of a call that cannot crash. -/
def ofExcept : Except ε α → Answer ε α
  | .ok a => .ok a
  | .error e => .error e

/-- A change to what is returned. -/
def map (f : α → β) : Answer ε α → Answer ε β
  | .ok a => .ok (f a)
  | .error e => .error e
  | .crash => .crash

/-- What is returned, if anything is. -/
def ok? : Answer ε α → Option α
  | .ok a => some a
  | _ => none

/-- A change to what is returned changes it. -/
@[simp] theorem map_ok (f : α → β) (a : α) : (ok a : Answer ε α).map f = .ok (f a) := rfl

/-- A change to what is returned leaves errors alone. -/
@[simp] theorem map_error (f : α → β) (e : ε) : (error e : Answer ε α).map f = .error e := rfl

/-- A change to what is returned leaves crashes alone. -/
@[simp] theorem map_crash (f : α → β) : (crash : Answer ε α).map f = .crash := rfl

end Answer

end Outbox

/-!
## Entities

An entity is the saved state of one aggregate. The type and the identifier of the aggregate tell it
from all others.
-/

namespace Outbox

/-- The saved state of an aggregate. -/
structure Entity where
  aggregateType : String
  aggregateId : Identifier
  version : UInt64
  state : Json.Value

/-- What tells an entity from all others. -/
def Entity.key (e : Entity) : String × Identifier :=
  (e.aggregateType, e.aggregateId)

end Outbox

/-!
## The store

The store holds the records of the outbox and the entities of the business. A call either does all
that it is for or leaves the store as it was, and no call removes a record.
-/

namespace Outbox

/-- How a record stands, under some ceiling of failures. -/
inductive Record.Standing
  /-- It is still to be relayed. -/
  | pending
  | processed
  /-- It failed in a way that retrying cannot mend. -/
  | deadLettered
  /-- It failed too often. -/
  | exhausted
  deriving DecidableEq, Repr

/-- How the record stands. -/
def Record.standing (r : Record) (ceiling : UInt32) : Standing :=
  if r.processed then .processed
  else if r.isDeadLettered then .deadLettered
  else if r.isExhausted ceiling then .exhausted
  else .pending

/-- The records and the entities that became durable. -/
structure Store where
  records : Keyed Record.id
  entities : Keyed Entity.key
  /-- The aggregate types whose entities are refused. -/
  refused : List String := []

namespace Store

/-- Why a call to a store fails. -/
inductive Error
  | notFound (id : Identifier)
  | duplicate (id : Identifier)
  | storage (reason : String)
  deriving DecidableEq

/-- The word that names the kind of an error. -/
def Error.kind : Error → String
  | .notFound _ => "NotFound"
  | .duplicate _ => "Duplicate"
  | .storage _ => "Storage"

/-- What is said of an error. -/
def Error.message : Error → String
  | .notFound id => "outbox record not found: " ++ id.toText
  | .duplicate id => "outbox record already exists: " ++ id.toText
  | .storage reason => "storage error: " ++ reason

/-- The store that holds nothing. -/
def empty : Store :=
  ⟨.empty, .empty, []⟩

instance : Inhabited Store := ⟨empty⟩

/-- The store with a new record. -/
def insert (s : Store) (r : Record) : Except Error Store :=
  match s.records.add? r with
  | some records => .ok { s with records }
  | none => .error (.duplicate r.id)

/-- The record with an identifier. -/
def get? (s : Store) (id : Identifier) : Option Record :=
  s.records.find? id

/-- All records, in the order in which they are relayed. -/
def toList (s : Store) : List Record :=
  Record.oldestFirst s.records.items

/-- The entity of an aggregate. -/
def entity? (s : Store) (aggregateType : String) (aggregateId : Identifier) : Option Entity :=
  s.entities.find? (aggregateType, aggregateId)

/-- The store that refuses entities of one more aggregate type. -/
def refuse (s : Store) (aggregateType : String) : Store :=
  { s with refused := aggregateType :: s.refused }

/-- The records to relay now: no more than `limit`, and the oldest of them. -/
def fetch (s : Store) (now : Time.Instant) (limit : Nat) (ceiling : UInt32) : List Record :=
  (Record.oldestFirst
    (s.records.items.filter fun r => r.isEligible ceiling && r.isDue now)).take limit

/-- The records that are not relayed any more although they were never published: no more than
`limit`, and the oldest of them. -/
def deadLetters (s : Store) (ceiling : UInt32) (limit : Nat) : List Record :=
  (Record.oldestFirst
    (s.records.items.filter fun r => r.isDeadLettered || r.isExhausted ceiling)).take limit

/-- How many records stand in some way. -/
def count (s : Store) (ceiling : UInt32) (standing : Record.Standing) : Nat :=
  s.records.items.countP fun r => r.standing ceiling = standing

/-- How many records stand in each way. -/
structure Counts where
  pending : Nat
  processed : Nat
  deadLettered : Nat
  exhausted : Nat
  deriving DecidableEq, Repr

/-- How many records stand in each way, under some ceiling of failures. -/
def stats (s : Store) (ceiling : UInt32) : Counts where
  pending := s.count ceiling .pending
  processed := s.count ceiling .processed
  deadLettered := s.count ceiling .deadLettered
  exhausted := s.count ceiling .exhausted

/-- The store after a change to the record with an identifier. -/
def update (s : Store) (id : Identifier) (f : Record → Record) (hf : ∀ r, (f r).id = r.id) :
    Except Error Store :=
  if s.records.contains id then .ok { s with records := s.records.adjust id f hf }
  else .error (.notFound id)

/-- The store after a record was published. -/
def markProcessed (s : Store) (now : Time.Instant) (id : Identifier) : Except Error Store :=
  s.update id (·.markProcessed now) (Record.id_markProcessed · now)

/-- The store after a record failed for good. -/
def markFailed (s : Store) (now : Time.Instant) (id : Identifier) (reason : String) :
    Except Error Store :=
  s.update id (·.markFailed reason now) (Record.id_markFailed · reason now)

/-- The store after a record failed once more and is left alone for some time. There may be no
instant that much later, which shows before the record is looked for. -/
def countRetry (s : Store) (now : Time.Instant) (id : Identifier) (reason : String)
    (delay : Time.Span) : Answer Error Store :=
  match now.add? delay with
  | none => .crash
  | some next =>
    .ofExcept (s.update id (·.countRetry reason next) (Record.id_countRetry · reason next))

end Store

end Outbox

/-!
## Transactions

A transaction stages entities and records. They become part of the store together when it commits;
until then nobody sees them.
-/

namespace Outbox.Store

/-- What was staged, in order. -/
structure Transaction where
  entities : List Entity := []
  records : List Record := []

namespace Transaction

/-- The transaction that stages nothing yet. -/
def opened : Transaction :=
  {}

instance : Inhabited Transaction := ⟨opened⟩

/-- Stages an entity, unless the store refuses its type. -/
def save (t : Transaction) (s : Store) (e : Entity) : Except Error Transaction :=
  if s.refused.contains e.aggregateType then
    .error (.storage s!"write rejected for {e.aggregateType} {e.aggregateId.toText}")
  else .ok { t with entities := t.entities ++ [e] }

/-- Stages a record. -/
def append (t : Transaction) (r : Record) : Transaction :=
  { t with records := t.records ++ [r] }

/-- The first identifier that is taken already, or that an earlier record has. -/
def clash? (taken : List Identifier) : List Record → Option Identifier
  | [] => none
  | r :: rs => if r.id ∈ taken then some r.id else clash? (r.id :: taken) rs

/-- The store after the commit. Of two entities with one key the one staged last counts. -/
def commit (t : Transaction) (s : Store) : Except Error Store :=
  match clash? s.records.keys t.records with
  | some id => .error (.duplicate id)
  | none =>
    .ok { s with
      entities := t.entities.foldl .put s.entities, records := t.records.foldl .put s.records }

end Transaction

end Outbox.Store
