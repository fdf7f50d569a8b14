import Outbox.Sql.Server

/-!
# The outbox in a database

The tables of the outbox, and the commands that stand for the calls of a store.

## The schema

The statements that create the tables of the outbox and of the entities, in the order in which they
have to run. Each may run again without harm.
-/

namespace Outbox.Sql.Schema

/-- The table of records. -/
def createRecords : String :=
  "CREATE TABLE IF NOT EXISTS outbox_messages ( id UUID PRIMARY KEY, " ++
    "type_tag VARCHAR(255) NOT NULL, payload TEXT NOT NULL, occurred_at TIMESTAMPTZ NOT NULL, " ++
    "processed BOOLEAN NOT NULL DEFAULT FALSE, processed_at TIMESTAMPTZ NULL, error TEXT NULL, " ++
    "retry_count INTEGER NOT NULL DEFAULT 0 CHECK (retry_count >= 0), " ++
    "dead_lettered_at TIMESTAMPTZ NULL, next_attempt_at TIMESTAMPTZ NULL )"

/-- The column in which a failed record waits, for tables that lack it. -/
def addNextAttempt : String :=
  "ALTER TABLE outbox_messages ADD COLUMN IF NOT EXISTS next_attempt_at TIMESTAMPTZ NULL"

/-- The index of the records that are still to be relayed. -/
def createPendingIndex : String :=
  "CREATE INDEX IF NOT EXISTS idx_outbox_messages_pending ON outbox_messages (occurred_at, id) " ++
    "WHERE processed = FALSE AND dead_lettered_at IS NULL"

/-- The table of entities. -/
def createEntities : String :=
  "CREATE TABLE IF NOT EXISTS entities ( aggregate_type VARCHAR(255) NOT NULL, " ++
    "aggregate_id UUID NOT NULL, version BIGINT NOT NULL, state JSONB NOT NULL, " ++
    "updated_at TIMESTAMPTZ NOT NULL DEFAULT NOW(), PRIMARY KEY (aggregate_type, aggregate_id) )"

/-- All statements. -/
def statements : List String :=
  [createRecords, addNextAttempt, createPendingIndex, createEntities]

end Outbox.Sql.Schema

/-!
## The store in a database

The calls of a store, made of commands to a database. A processed record is never touched again: the
commands leave it out, and when a command changes no row, a look for the record tells whether it is
gone or only settled. The examples show the commands in SQL, with white space squeezed: whatever the
values are, they stand in the parameters only.
-/

namespace Outbox.Sql

open Condition (compare isNull isNotNull)

/-- The record is not processed. -/
def unprocessed : Condition :=
  compare .equal (.column .processed) (.boolean false)

/-- The record has the identifier that is the first parameter. -/
def hasId : Condition :=
  compare .equal (.column .id) (.parameter 1)

/-- The record failed less often than the first parameter says. -/
def belowCeiling : Condition :=
  compare .less (.column .retryCount) (.parameter 1)

/-- The record failed at least as often as the first parameter says. -/
def atCeiling : Condition :=
  compare .atLeast (.column .retryCount) (.parameter 1)

/-- The command that fetches the records to relay now. -/
def fetchCommand (now : Time.Instant) (limit : UInt64) (ceiling : UInt32) : Command where
  statement := .select
    (.all unprocessed [isNull .deadLetteredAt, belowCeiling,
      .or (isNull .nextAttemptAt) (compare .atMost (.column .nextAttemptAt) (.parameter 3))])
    (some 2)
  parameters := [.ofCount ceiling, .ofWord limit, .ofInstant now]

example (now : Time.Instant) (limit : UInt64) (ceiling : UInt32) :
    (fetchCommand now limit ceiling).statement.text =
      "SELECT id, type_tag, payload, occurred_at, processed, processed_at, error, retry_count, " ++
        "dead_lettered_at, next_attempt_at FROM outbox_messages WHERE processed = FALSE AND " ++
        "dead_lettered_at IS NULL AND retry_count < $1 AND (next_attempt_at IS NULL OR " ++
        "next_attempt_at <= $3) ORDER BY occurred_at ASC, id ASC LIMIT $2" := by
  show (fetchCommand .epoch 0 0).statement.text = _
  decide +kernel

/-- The command that fetches the records that are not relayed any more. -/
def deadLettersCommand (ceiling : UInt32) (limit : UInt64) : Command where
  statement := .select (.and unprocessed (.or (isNotNull .deadLetteredAt) atCeiling)) (some 2)
  parameters := [.ofCount ceiling, .ofWord limit]

example (ceiling : UInt32) (limit : UInt64) :
    (deadLettersCommand ceiling limit).statement.text =
      "SELECT id, type_tag, payload, occurred_at, processed, processed_at, error, retry_count, " ++
        "dead_lettered_at, next_attempt_at FROM outbox_messages WHERE processed = FALSE AND " ++
        "(dead_lettered_at IS NOT NULL OR retry_count >= $1) " ++
        "ORDER BY occurred_at ASC, id ASC LIMIT $2" := by
  show (deadLettersCommand 0 0).statement.text = _
  decide +kernel

/-- The command that fetches one record. -/
def getCommand (id : Identifier) : Command where
  statement := .select hasId none
  parameters := [.uuid id]

/-- The command that marks a record as processed. -/
def markProcessedCommand (now : Time.Instant) (id : Identifier) : Command where
  statement := .update
    [(.processed, .boolean true), (.processedAt, .parameter 2), (.error, .null),
      (.nextAttemptAt, .null)]
    (.and hasId unprocessed)
  parameters := [.uuid id, .ofInstant now]

example (now : Time.Instant) (id : Identifier) :
    (markProcessedCommand now id).statement.text =
      "UPDATE outbox_messages SET processed = TRUE, processed_at = $2, error = NULL, " ++
        "next_attempt_at = NULL WHERE id = $1 AND processed = FALSE" := by
  show (markProcessedCommand .epoch ⟨0⟩).statement.text = _
  decide +kernel

/-- The command that marks a record as failed for good. -/
def markFailedCommand (now : Time.Instant) (id : Identifier) (reason : String) : Command where
  statement := .update [(.error, .parameter 2), (.deadLetteredAt, .parameter 3)]
    (.all hasId [unprocessed, isNull .deadLetteredAt])
  parameters := [.uuid id, .text reason, .ofInstant now]

example (now : Time.Instant) (id : Identifier) (reason : String) :
    (markFailedCommand now id reason).statement.text =
      "UPDATE outbox_messages SET error = $2, dead_lettered_at = $3 " ++
        "WHERE id = $1 AND processed = FALSE AND dead_lettered_at IS NULL" := by
  show (markFailedCommand .epoch ⟨0⟩ "").statement.text = _
  decide +kernel

/-- The command that counts one more failure of a record. -/
def countRetryCommand (id : Identifier) (reason : String) (next : Time.Instant) : Command where
  statement := .update
    [(.retryCount, .increment), (.error, .parameter 2), (.nextAttemptAt, .parameter 3)]
    (.and hasId unprocessed)
  parameters := [.uuid id, .text reason, .ofInstant next]

example (id : Identifier) (reason : String) (next : Time.Instant) :
    (countRetryCommand id reason next).statement.text =
      "UPDATE outbox_messages SET retry_count = retry_count + 1, error = $2, " ++
        "next_attempt_at = $3 WHERE id = $1 AND processed = FALSE" := by
  show (countRetryCommand ⟨0⟩ "" .epoch).statement.text = _
  decide +kernel

/-- The command that counts the records in each standing. -/
def statsCommand (ceiling : UInt32) : Command where
  statement := .count
    [(.all unprocessed [isNull .deadLetteredAt, belowCeiling], "pending"),
      (compare .equal (.column .processed) (.boolean true), "processed"),
      (.and unprocessed (isNotNull .deadLetteredAt), "dead_lettered"),
      (.all unprocessed [isNull .deadLetteredAt, atCeiling], "retry_exhausted")]
  parameters := [.ofCount ceiling]

example (ceiling : UInt32) :
    (statsCommand ceiling).statement.text =
      "SELECT COUNT(*) FILTER (WHERE processed = FALSE AND dead_lettered_at IS NULL AND " ++
        "retry_count < $1) AS pending, COUNT(*) FILTER (WHERE processed = TRUE) AS processed, " ++
        "COUNT(*) FILTER (WHERE processed = FALSE AND dead_lettered_at IS NOT NULL) AS " ++
        "dead_lettered, COUNT(*) FILTER (WHERE processed = FALSE AND dead_lettered_at IS NULL " ++
        "AND retry_count >= $1) AS retry_exhausted FROM outbox_messages" := by
  show (statsCommand 0).statement.text = _
  decide +kernel

/-- The command that looks for a record. -/
def containsCommand (id : Identifier) : Command :=
  ⟨.contains, [.uuid id]⟩

/-- The command that adds a record. -/
def appendCommand (r : Record) : Command where
  statement := .insert
  parameters := [.uuid r.id, .text r.typeTag, .text r.payload, .ofInstant r.occurredAt,
    .boolean r.processed, .ofOption .ofInstant r.processedAt, .ofOption .text r.error,
    .ofCount r.retryCount, .ofOption .ofInstant r.deadLetteredAt,
    .ofOption .ofInstant r.nextAttemptAt]

example (r : Record) :
    (appendCommand r).statement.text =
      "INSERT INTO outbox_messages ( id, type_tag, payload, occurred_at, processed, " ++
        "processed_at, error, retry_count, dead_lettered_at, next_attempt_at ) " ++
        "VALUES ($1, $2, $3, $4, $5, $6, $7, $8, $9, $10)" := by
  show Statement.text .insert = _
  decide +kernel

/-- The command that saves an entity. -/
def saveCommand (e : Entity) : Command where
  statement := .saveEntity
  parameters := [.text e.aggregateType, .uuid e.aggregateId, .ofWord e.version, .json e.state]

/-- Reads the counts of a row. A negative count is none. -/
def readCounts (r : Sent) : Except Fault Store.Counts := do
  let pending ← r.plain "pending" Value.integer?
  let processed ← r.plain "processed" Value.integer?
  let deadLettered ← r.plain "dead_lettered" Value.integer?
  let exhausted ← r.plain "retry_exhausted" Value.integer?
  return ⟨pending.toNat, processed.toNat, deadLettered.toNat, exhausted.toNat⟩

namespace Server

variable {ω τ : Type}

/-- Creates what is missing of the tables. -/
def ensure (s : Server ω τ) : List String → ω → Except Store.Error Unit × ω
  | [], w => (.ok (), w)
  | text :: texts, w =>
    match s.execute ⟨.define text, []⟩ w with
    | (.ok _, w) => ensure s texts w
    | (.error f, w) => (.error (.storage ("schema setup failed: " ++ f.message)), w)

/-- Creates what is missing of the schema. -/
def ensureSchema (s : Server ω τ) (w : ω) : Except Store.Error Unit × ω :=
  s.ensure Schema.statements w

/-- The records that a command finds. -/
def records (s : Server ω τ) (operation : String) (c : Command) (w : ω) :
    Except Store.Error (List Record) × ω :=
  match s.execute c w with
  | (.error f, w) => (.error (f.during operation), w)
  | (.ok response, w) =>
    ((response.sentRows.mapM readRecord).mapError fun f =>
      .storage ("failed to deserialize outbox row: " ++ f.message), w)

/-- The single row that a command finds. -/
def row (s : Server ω τ) (operation : String) (c : Command) (w : ω) :
    Except Store.Error Sent × ω :=
  match s.execute c w with
  | (.error f, w) => (.error (f.during operation), w)
  | (.ok response, w) =>
    match response.sentRows with
    | r :: _ => (.ok r, w)
    | [] => (.error (Fault.noRow.during operation), w)

/-- The records to relay now. -/
def fetch (s : Server ω τ) (now : Time.Instant) (limit : UInt64) (ceiling : UInt32) (w : ω) :
    Except Store.Error (List Record) × ω :=
  s.records "fetch_batch" (fetchCommand now limit ceiling) w

/-- The records that are not relayed any more although they were never published. -/
def deadLetters (s : Server ω τ) (ceiling : UInt32) (limit : UInt64) (w : ω) :
    Except Store.Error (List Record) × ω :=
  s.records "list_dead_letters" (deadLettersCommand ceiling limit) w

/-- The record with an identifier. -/
def get (s : Server ω τ) (id : Identifier) (w : ω) : Except Store.Error (Option Record) × ω :=
  let (found, w) := s.records "get" (getCommand id) w
  (found.map List.head?, w)

/-- Whether there is a record with an identifier. -/
def contains (s : Server ω τ) (id : Identifier) (w : ω) : Except Store.Error Bool × ω :=
  match s.row "exists" (containsCommand id) w with
  | (.error e, w) => (.error e, w)
  | (.ok r, w) => ((r.plain "found" Value.boolean?).mapError (·.during "exists"), w)

/-- Changes a record. When no row was changed, the record must at least be there. -/
def update (s : Server ω τ) (operation : String) (id : Identifier) (c : Command) (w : ω) :
    Except Store.Error Unit × ω :=
  match s.execute c w with
  | (.error f, w) => (.error (f.during operation), w)
  | (.ok response, w) =>
    if 0 < response.count then (.ok (), w)
    else
      let (found, w) := s.contains id w
      (found.bind fun found => if found then .ok () else .error (.notFound id), w)

/-- Marks a record as processed. -/
def markProcessed (s : Server ω τ) (now : Time.Instant) (id : Identifier) (w : ω) :
    Except Store.Error Unit × ω :=
  s.update "mark_processed" id (markProcessedCommand now id) w

/-- Marks a record as failed for good. -/
def markFailed (s : Server ω τ) (now : Time.Instant) (id : Identifier) (reason : String) (w : ω) :
    Except Store.Error Unit × ω :=
  s.update "mark_failed_permanent" id (markFailedCommand now id reason) w

/-- Counts one more failure of a record. There may be no instant that much later, which shows before
anything is sent. -/
def countRetry (s : Server ω τ) (now : Time.Instant) (id : Identifier) (reason : String)
    (delay : Time.Span) (w : ω) : Answer Store.Error Unit × ω :=
  match now.add? delay with
  | none => (.crash, w)
  | some next =>
    let (done, w) := s.update "increment_retry" id (countRetryCommand id reason next) w
    (.ofExcept done, w)

/-- How many records stand in each way. -/
def stats (s : Server ω τ) (ceiling : UInt32) (w : ω) : Except Store.Error Store.Counts × ω :=
  match s.row "stats" (statsCommand ceiling) w with
  | (.error e, w) => (.error e, w)
  | (.ok r, w) => ((readCounts r).mapError (·.during "stats"), w)

/-- Opens a transaction. -/
def begin (s : Server ω τ) (w : ω) : Except Store.Error τ × ω :=
  let (opened, w) := s.start w
  (opened.mapError (·.during "begin_transaction"), w)

/-- Saves an entity in a transaction. -/
def save (s : Server ω τ) (e : Entity) (t : τ) (w : ω) : Except Store.Error Unit × τ × ω :=
  let (done, t, w) := s.executeIn (saveCommand e) t w
  ((done.mapError (·.during "save_entity")).map fun _ => (), t, w)

/-- Adds a record in a transaction. -/
def append (s : Server ω τ) (r : Record) (t : τ) (w : ω) : Except Store.Error Unit × τ × ω :=
  let (done, t, w) := s.executeIn (appendCommand r) t w
  let refused (f : Fault) : Store.Error :=
    if f.isDuplicate then .duplicate r.id else f.during "append_outbox"
  ((done.mapError refused).map fun _ => (), t, w)

/-- Commits a transaction. -/
def commitWork (s : Server ω τ) (t : τ) (w : ω) : Except Store.Error Unit × ω :=
  let (done, w) := s.commit t w
  (done.mapError (·.during "commit_transaction"), w)

/-- Rolls a transaction back. -/
def rollbackWork (s : Server ω τ) (t : τ) (w : ω) : Except Store.Error Unit × ω :=
  let (done, w) := s.rollback t w
  (done.mapError (·.during "rollback"), w)

end Server

end Outbox.Sql
