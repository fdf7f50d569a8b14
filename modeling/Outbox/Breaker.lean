import Outbox.Record

/-!
# The circuit breaker

The breaker opens after a number of failures in a row and keeps batches from being relayed until
more than its reset timeout has passed. It closes when it is next asked, so one that nobody asks
stays open.
-/

namespace Outbox

/-- The state of a breaker. -/
structure Breaker where
  /-- The failures since the last success. -/
  failures : UInt32 := 0
  lastFailure : Option Time.Instant := none
  opened : Bool := false
  deriving DecidableEq

namespace Breaker

/-- The breaker before any batch. -/
def initial : Breaker :=
  {}

instance : Inhabited Breaker := ⟨initial⟩

/-- Whether more than the reset timeout has passed since the last failure. -/
def hasCooled (b : Breaker) (reset : Time.Span) (now : Time.Instant) : Bool :=
  match b.lastFailure with
  | none => true
  | some last => reset < now.elapsed last

/-- Whether batches must be skipped now, and the breaker after it was asked. -/
def ask (b : Breaker) (reset : Time.Span) (now : Time.Instant) : Bool × Breaker :=
  if !b.opened then (false, b)
  else if b.hasCooled reset now then (false, initial)
  else (true, b)

/-- The breaker after a good batch. -/
def recordSuccess (b : Breaker) : Breaker :=
  { b with failures := 0 }

/-- The breaker after a failed batch. -/
def recordFailure (b : Breaker) (now : Time.Instant) : Breaker :=
  { b with failures := saturatingSucc b.failures, lastFailure := some now }

/-- The breaker opened; its timeout starts now. -/
def trip (b : Breaker) (now : Time.Instant) : Breaker :=
  { b with opened := true, lastFailure := some now }

end Breaker

end Outbox
