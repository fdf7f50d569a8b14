import Outbox.Message

/-!
# Outbox records

A record is a message that waits to be relayed, or was. It is processed once it was published,
dead-lettered once retrying cannot help, and exhausted once it failed too often.
-/

namespace Outbox

/-- A stored message and how its relaying stands. -/
structure Record where
  id : Identifier
  typeTag : String
  payload : String
  /-- When the message came to be; older records are relayed first. -/
  occurredAt : Time.Instant
  processed : Bool := false
  processedAt : Option Time.Instant := none
  /-- Why relaying failed last. -/
  error : Option String := none
  retryCount : UInt32 := 0
  deadLetteredAt : Option Time.Instant := none
  /-- The record is left alone before this instant. -/
  nextAttemptAt : Option Time.Instant := none
  deriving DecidableEq

/-- The next number, or the same at the end of the range. -/
def saturatingSucc (n : UInt32) : UInt32 :=
  if n = 4294967295 then n else n + 1

namespace Record

/-- A fresh record of a message. -/
def ofMessage (id : Identifier) (m : Message) (occurredAt : Time.Instant) :
    Except Unwritable Record :=
  m.payload.map fun payload => { id, typeTag := m.tag, payload, occurredAt }

/-- Whether the record failed in a way that retrying cannot mend. -/
def isDeadLettered (r : Record) : Bool :=
  r.deadLetteredAt.isSome

/-- Whether the record is still to be relayed, with fewer failures than the ceiling. -/
def isEligible (r : Record) (ceiling : UInt32) : Bool :=
  !r.processed && !r.isDeadLettered && r.retryCount < ceiling

/-- Whether the record is still to be relayed but failed too often. -/
def isExhausted (r : Record) (ceiling : UInt32) : Bool :=
  !r.processed && !r.isDeadLettered && ceiling ≤ r.retryCount

/-- Whether the record has waited out its last failure. -/
def isDue (r : Record) (now : Time.Instant) : Bool :=
  match r.nextAttemptAt with
  | none => true
  | some at_ => at_ ≤ now

/-- The record as published; nothing if it is processed already. -/
def markProcessed? (r : Record) (at_ : Time.Instant) : Option Record :=
  if r.processed then none
  else
    some { r with processed := true, processedAt := some at_, error := none, nextAttemptAt := none }

/-- The record as failed for good; nothing if it is processed or dead-lettered already. -/
def markFailed? (r : Record) (reason : String) (at_ : Time.Instant) : Option Record :=
  if r.processed || r.isDeadLettered then none
  else some { r with error := some reason, deadLetteredAt := some at_ }

/-- The record as failed once more, to be left alone until an instant; nothing if it is processed
already. -/
def countRetry? (r : Record) (reason : String) (next : Time.Instant) : Option Record :=
  if r.processed then none
  else
    some { r with
      retryCount := saturatingSucc r.retryCount, error := some reason, nextAttemptAt := some next }

/-- The record as published, or as it was. -/
def markProcessed (r : Record) (at_ : Time.Instant) : Record :=
  (r.markProcessed? at_).getD r

/-- The record as failed for good, or as it was. -/
def markFailed (r : Record) (reason : String) (at_ : Time.Instant) : Record :=
  (r.markFailed? reason at_).getD r

/-- The record as failed once more, or as it was. -/
def countRetry (r : Record) (reason : String) (next : Time.Instant) : Record :=
  (r.countRetry? reason next).getD r

/-- The identifier stays when a record is marked as processed. -/
@[simp] theorem id_markProcessed (r : Record) (at_ : Time.Instant) :
    (r.markProcessed at_).id = r.id := by
  unfold markProcessed markProcessed?; split <;> rfl

/-- The identifier stays when a record is marked as failed. -/
@[simp] theorem id_markFailed (r : Record) (reason : String) (at_ : Time.Instant) :
    (r.markFailed reason at_).id = r.id := by
  unfold markFailed markFailed?; split <;> rfl

/-- The identifier stays when a retry is counted. -/
@[simp] theorem id_countRetry (r : Record) (reason : String) (next : Time.Instant) :
    (r.countRetry reason next).id = r.id := by
  unfold countRetry countRetry?; split <;> rfl

/-- Whether one record is relayed before another: the older one, or of two as old the one with the
smaller identifier. -/
def isBefore (a b : Record) : Bool :=
  a.occurredAt < b.occurredAt || (a.occurredAt = b.occurredAt && a.id.number ≤ b.id.number)

/-- Records in the order in which they are relayed. -/
def oldestFirst (rs : List Record) : List Record :=
  rs.mergeSort isBefore

end Record

end Outbox

/-!
## Records as JSON texts

The form of a record, and the entry that belongs to it. Fields that may be empty may be left out of
an object.
-/

namespace Outbox.Record

/-- The fields of a stored record. -/
def form : Form where
  name := "OutboxRecord"
  fields := [⟨"id", .identifier, none, none⟩, ⟨"type_tag", .text, none, none⟩,
    ⟨"payload", .text, none, none⟩, ⟨"occurred_at", .instant, none, none⟩,
    ⟨"processed", .boolean, none, none⟩, ⟨"processed_at", .optional .instant, some none, none⟩,
    ⟨"error", .optional .text, some none, none⟩, ⟨"retry_count", .word32, none, none⟩,
    ⟨"dead_lettered_at", .optional .instant, some none, none⟩,
    ⟨"next_attempt_at", .optional .instant, some none, none⟩]

/-- The entry of a record. -/
def toEntry (r : Record) : form.Filled :=
  (r.id, r.typeTag, r.payload, r.occurredAt, r.processed, r.processedAt, r.error, r.retryCount,
    r.deadLetteredAt, r.nextAttemptAt, ())

/-- The record of an entry. -/
def ofEntry : form.Filled → Record
  | (id, typeTag, payload, occurredAt, processed, processedAt, error, retryCount, deadLetteredAt,
      nextAttemptAt, ()) =>
    ⟨id, typeTag, payload, occurredAt, processed, processedAt, error, retryCount, deadLetteredAt,
      nextAttemptAt⟩

/-- A record is made again of its entry. -/
theorem ofEntry_toEntry (r : Record) : ofEntry r.toEntry = r := rfl

/-- Every entry is that of the record made of it. -/
theorem toEntry_ofEntry (e : form.Filled) : (ofEntry e).toEntry = e := rfl

/-- The text of a record. -/
def toText (r : Record) : String :=
  Form.write form r.toEntry

/-- Reads the text of a record. -/
def parse (text : String) : Except Json.Report Record :=
  (Form.parse form text).map ofEntry

end Outbox.Record

/-!
## Notices

A notice tells listeners inside the process that a message became durable. It repeats the parts of
the record that never change.
-/

namespace Outbox

/-- A message that was committed. -/
structure Notice where
  recordId : Identifier
  typeTag : String
  payload : String
  occurredAt : Time.Instant
  deriving DecidableEq

namespace Notice

/-- The notice of a record. -/
def ofRecord (r : Record) : Notice :=
  ⟨r.id, r.typeTag, r.payload, r.occurredAt⟩

/-- The fields of a notice. -/
def form : Form where
  name := "CommittedEvent"
  fields := [⟨"outbox_id", .identifier, none, none⟩, ⟨"type_tag", .text, none, none⟩,
    ⟨"payload", .text, none, none⟩, ⟨"occurred_at", .instant, none, none⟩]

/-- The entry of a notice. -/
def toEntry (n : Notice) : form.Filled :=
  (n.recordId, n.typeTag, n.payload, n.occurredAt, ())

/-- The notice of an entry. -/
def ofEntry : form.Filled → Notice
  | (recordId, typeTag, payload, occurredAt, ()) => ⟨recordId, typeTag, payload, occurredAt⟩

/-- A notice is made again of its entry. -/
theorem ofEntry_toEntry (n : Notice) : ofEntry n.toEntry = n := rfl

/-- Every entry is that of the notice made of it. -/
theorem toEntry_ofEntry (e : form.Filled) : (ofEntry e).toEntry = e := rfl

/-- The text of a notice. -/
def toText (n : Notice) : String :=
  Form.write form n.toEntry

/-- Reads the text of a notice. -/
def parse (text : String) : Except Json.Report Notice :=
  (Form.parse form text).map ofEntry

end Notice

end Outbox
