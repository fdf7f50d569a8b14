import Outbox.Form

/-!
# Settings

How a publisher works. Every setting has a default and a range; `validate` names the first setting
that is out of range. The spans of valid settings are always representable; of others they may not be.
-/

namespace Outbox

/-- The settings of a publisher. -/
structure Settings where
  pollIntervalSeconds : UInt64 := 5
  batchSize : UInt64 := 50
  parallelism : UInt64 := 4
  /-- A record that failed this often is not relayed any more. -/
  retryCeiling : UInt32 := 10
  retryDelaySeconds : UInt64 := 60
  breakerEnabled : Bool := true
  breakerThreshold : UInt32 := 5
  breakerResetSeconds : UInt64 := 60
  windowEnabled : Bool := true
  windowHours : UInt64 := 24
  deriving DecidableEq, Repr

namespace Settings

/-- The default settings. -/
def default : Settings :=
  {}

instance : Inhabited Settings := ⟨default⟩

/-- A setting is out of its range. -/
structure OutOfRange where
  field : String
  value : Nat
  least : Nat
  greatest : Nat
  deriving DecidableEq, Repr

/-- What an operator is told of a setting that is out of its range. -/
def OutOfRange.message (e : OutOfRange) : String :=
  s!"{e.field} must be between {e.least} and {e.greatest} (got {e.value})"

/-- The settings that have a range, with their names, values and ranges. -/
def ranges (s : Settings) : List OutOfRange :=
  [⟨"poll_interval_seconds", s.pollIntervalSeconds.toNat, 1, 300⟩,
    ⟨"batch_size", s.batchSize.toNat, 1, 1000⟩,
    ⟨"max_degree_of_parallelism", s.parallelism.toNat, 1, 32⟩,
    ⟨"max_retry_count", s.retryCeiling.toNat, 1, 100⟩,
    ⟨"retry_delay_seconds", s.retryDelaySeconds.toNat, 1, 3600⟩,
    ⟨"circuit_breaker_failure_threshold", s.breakerThreshold.toNat, 1, 100⟩,
    ⟨"circuit_breaker_reset_timeout_seconds", s.breakerResetSeconds.toNat, 10, 3600⟩,
    ⟨"idempotency_cache_hours", s.windowHours.toNat, 1, 720⟩]

/-- Whether a value lies outside its range. -/
def OutOfRange.holds (e : OutOfRange) : Bool :=
  e.value < e.least || e.greatest < e.value

/-- The first setting that is out of range. -/
def validate (s : Settings) : Except OutOfRange Unit :=
  match s.ranges.find? OutOfRange.holds with
  | some e => .error e
  | none => .ok ()

/-- A count of 64 bits, read as a number with a sign. -/
def signed (n : UInt64) : Int :=
  n.toInt64.toInt

/-- How long a record waits after a failure. -/
def retryDelay? (s : Settings) : Option Time.Span :=
  Time.Span.ofSeconds? (signed s.retryDelaySeconds)

/-- How long the breaker stays open. -/
def breakerReset? (s : Settings) : Option Time.Span :=
  Time.Span.ofSeconds? (signed s.breakerResetSeconds)

/-- How long a publish is remembered. -/
def window? (s : Settings) : Option Time.Span :=
  Time.Span.ofSeconds? (signed s.windowHours * 3600)

/-- The form of settings; each falls back to its default. -/
def form : Form where
  name := "OutboxSettings"
  fields := [.withDefault "poll_interval_seconds" .word64 (5 : UInt64),
    .withDefault "batch_size" .size (50 : UInt64),
    .withDefault "max_degree_of_parallelism" .size (4 : UInt64),
    .withDefault "max_retry_count" .word32 (10 : UInt32),
    .withDefault "retry_delay_seconds" .word64 (60 : UInt64),
    .withDefault "enable_circuit_breaker" .boolean true,
    .withDefault "circuit_breaker_failure_threshold" .word32 (5 : UInt32),
    .withDefault "circuit_breaker_reset_timeout_seconds" .word64 (60 : UInt64),
    .withDefault "enable_idempotency" .boolean true,
    .withDefault "idempotency_cache_hours" .word64 (24 : UInt64)]

/-- The settings of an entry. -/
def ofEntry : form.Filled → Settings
  | (poll, batch, parallelism, ceiling, delay, breaker, threshold, reset, window, hours, ()) =>
    ⟨poll, batch, parallelism, ceiling, delay, breaker, threshold, reset, window, hours⟩

/-- The entry of settings. -/
def toEntry (s : Settings) : form.Filled :=
  (s.pollIntervalSeconds, s.batchSize, s.parallelism, s.retryCeiling, s.retryDelaySeconds,
    s.breakerEnabled, s.breakerThreshold, s.breakerResetSeconds, s.windowEnabled, s.windowHours, ())

/-- Reads settings from a JSON text. -/
def parse (text : String) : Except Json.Report Settings :=
  (Form.parse form text).map ofEntry

end Settings

end Outbox
