import Outbox.Identifier
import Outbox.Keyed
import Outbox.Time.Clock

/-!
# The idempotency window

The window remembers which records were published lately, so that a record whose flag could not be
written is not published again. An entry counts while less than the window's length has passed;
an old one is forgotten when it is looked up or purged.
-/

namespace Outbox

/-- The records published within some time. -/
structure Window where
  length : Time.Span
  seen : Keyed (Prod.fst : Identifier × Time.Instant → Identifier)

namespace Window

/-- The window that remembers nothing yet. -/
def ofLength (length : Time.Span) : Window :=
  ⟨length, .empty⟩

/-- Whether an entry made at an instant still counts. -/
def isFresh (w : Window) (now at_ : Time.Instant) : Bool :=
  now.elapsed at_ < w.length

/-- The window after a record was published. -/
def remember (w : Window) (now : Time.Instant) (id : Identifier) : Window :=
  { w with seen := w.seen.put (id, now) }

/-- Whether a record was published lately, and the window after it was looked up. -/
def lookUp (w : Window) (now : Time.Instant) (id : Identifier) : Bool × Window :=
  match w.seen.find? id with
  | none => (false, w)
  | some (_, at_) =>
    if w.isFresh now at_ then (true, w) else (false, { w with seen := w.seen.remove id })

/-- The window without its old entries. -/
def purge (w : Window) (now : Time.Instant) : Window :=
  { w with seen := w.seen.filter fun e => w.isFresh now e.2 }

/-- The number of entries, old ones included. -/
def size (w : Window) : Nat :=
  w.seen.size

/-- How many entries a purge removes. -/
def purged (w : Window) (now : Time.Instant) : Nat :=
  w.size - (w.purge now).size

end Window

end Outbox
