import Outbox.Publisher

/-!
# Display

What operators see of records, notices, settings, breakers and counts: JSON objects whose members
have fixed names.
-/

namespace Outbox

/-- A count as a JSON value. -/
def Json.Value.count (n : Nat) : Json.Value :=
  .integer n

/-- An instant as a JSON value. -/
def Time.Instant.json (t : Time.Instant) : Json.Value :=
  .text t.toText

/-- A record with all its fields. -/
def Record.json (r : Record) : Json.Value :=
  form.json r.toEntry

/-- A record in short: what it is called and how it stands. -/
def Record.summary (r : Record) : Json.Value :=
  .object [("id", .text r.id.toText),
    ("state", .text (if r.processed then "processed" else if r.isDeadLettered then "dead"
      else "pending")),
    ("retry_count", .count r.retryCount.toNat), ("error", .ofOption .text r.error),
    ("next_attempt_at", .ofOption Time.Instant.json r.nextAttemptAt)]

/-- A notice with all its fields. -/
def Notice.json (n : Notice) : Json.Value :=
  form.json n.toEntry

/-- Settings with all their fields. -/
def Settings.json (s : Settings) : Json.Value :=
  form.json s.toEntry

/-- An entity with all its fields. -/
def Entity.json (e : Entity) : Json.Value :=
  .object [("aggregate_type", .text e.aggregateType), ("aggregate_id", .text e.aggregateId.toText),
    ("version", .count e.version.toNat), ("state", e.state)]

/-- The state of a breaker. -/
def Breaker.json (b : Breaker) : Json.Value :=
  .object [("consecutive_failures", .count b.failures.toNat),
    ("last_failure_time", .ofOption Time.Instant.json b.lastFailure), ("is_open", .boolean b.opened)]

/-- A parcel with the JSON value of its payload. -/
def Broker.Parcel.json (p : Parcel) : Json.Value :=
  .object [("type_tag", .text p.typeTag), ("type_name", .text p.typeName),
    ("payload", .text p.payload), ("json", (Json.Value.ofText? p.payload).getD .null)]

/-- How many records of a store stand in each way. -/
def Store.Counts.json (c : Counts) : Json.Value :=
  .object [("pending", .count c.pending), ("processed", .count c.processed),
    ("dead_lettered", .count c.deadLettered), ("retry_exhausted", .count c.exhausted)]

namespace Publisher

/-- The counts of a batch. -/
def Report.json (r : Report) : Json.Value :=
  .object [("fetched", .count r.fetched), ("published", .count r.published),
    ("already_published", .count r.alreadyPublished), ("retried", .count r.retried),
    ("dead_lettered", .count r.deadLettered)]

/-- The counts of a publisher. -/
def Stats.json (s : Stats) : Json.Value :=
  .object [("batches", .count s.batches), ("published", .count s.published),
    ("already_published", .count s.alreadyPublished), ("retried", .count s.retried),
    ("dead_lettered", .count s.deadLettered), ("failed_batches", .count s.failedBatches),
    ("circuit_open_skips", .count s.skips)]

/-- The word for what a tick came to. -/
def Tick.word : Tick → String
  | skipped => "circuit_open"
  | idle => "idle"
  | processed _ => "processed"
  | failed _ => "failed"

end Publisher

end Outbox
