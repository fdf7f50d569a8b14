import Outbox.Settings

/-!
# Settings from variables

Settings are read from variables with a common beginning. All variables are read before any range
is checked, and a variable that is missing leaves its default. `toVariables` writes settings as
variables again.
-/

namespace Outbox.Settings

/-- How the names of all variables begin. -/
def variableStem : String :=
  "OUTBOX_"

/-- Why settings cannot be had from variables. -/
inductive Rejection
  | outOfRange (e : OutOfRange)
  /-- A variable does not spell a value. -/
  | unparsable (key value : String)
  deriving DecidableEq, Repr

/-- The word that names the kind of a rejection. -/
def Rejection.kind : Rejection → String
  | .outOfRange _ => "OutOfRange"
  | .unparsable .. => "Unparsable"

/-- What an operator is told of variables that give no settings. -/
def Rejection.message : Rejection → String
  | .outOfRange e => e.message
  | .unparsable key value => key ++ ": cannot parse " ++ Text.quoted value

/-- The number that digits spell, after one plus sign at most. -/
def spelledNumber? (cs : List Char) : Option Nat :=
  let ds := match cs with
    | '+' :: ds => ds
    | ds => ds
  if ds.isEmpty || !ds.all Char.isDigit then none else some (Nat.ofDigitChars 10 ds 0)

/-- The number of 64 bits that a text spells. -/
def spelledWord64? (cs : List Char) : Option UInt64 :=
  (spelledNumber? cs).bind fun n => Form.word64? n

/-- The number of 32 bits that a text spells. -/
def spelledWord32? (cs : List Char) : Option UInt32 :=
  (spelledNumber? cs).bind fun n => Form.word32? n

/-- The truth value that a text spells. -/
def spelledBoolean? (cs : List Char) : Option Bool :=
  if cs = "true".toList then some true
  else if cs = "false".toList then some false
  else none

/-- The value of a variable, or the default where there is none. -/
def readVariable {α : Type} (lookup : String → Option String) (name : String)
    (spelled? : List Char → Option α) (default : α) : Except Rejection α :=
  let key := variableStem ++ name
  match lookup key with
  | none => .ok default
  | some value =>
    match spelled? (Text.trimmed value.toList) with
    | some a => .ok a
    | none => .error (.unparsable key value)

/-- The settings that variables spell, of any range. -/
def spelled (lookup : String → Option String) : Except Rejection Settings := do
  let d := default
  let poll ← readVariable lookup "POLL_INTERVAL_SECONDS" spelledWord64? d.pollIntervalSeconds
  let batch ← readVariable lookup "BATCH_SIZE" spelledWord64? d.batchSize
  let parallelism ← readVariable lookup "MAX_DEGREE_OF_PARALLELISM" spelledWord64? d.parallelism
  let ceiling ← readVariable lookup "MAX_RETRY_COUNT" spelledWord32? d.retryCeiling
  let delay ← readVariable lookup "RETRY_DELAY_SECONDS" spelledWord64? d.retryDelaySeconds
  let breaker ← readVariable lookup "ENABLE_CIRCUIT_BREAKER" spelledBoolean? d.breakerEnabled
  let threshold ←
    readVariable lookup "CIRCUIT_BREAKER_FAILURE_THRESHOLD" spelledWord32? d.breakerThreshold
  let reset ←
    readVariable lookup "CIRCUIT_BREAKER_RESET_TIMEOUT_SECONDS" spelledWord64? d.breakerResetSeconds
  let window ← readVariable lookup "ENABLE_IDEMPOTENCY" spelledBoolean? d.windowEnabled
  let hours ← readVariable lookup "IDEMPOTENCY_CACHE_HOURS" spelledWord64? d.windowHours
  return ⟨poll, batch, parallelism, ceiling, delay, breaker, threshold, reset, window, hours⟩

/-- The settings that variables spell, if they are in range. -/
def ofLookup (lookup : String → Option String) : Except Rejection Settings := do
  let s ← spelled lookup
  s.validate.mapError .outOfRange
  return s

/-- Settings written as variables. -/
def toVariables (s : Settings) : List (String × String) :=
  let word (n : Nat) := String.ofList (Nat.toDigits 10 n)
  let flag (b : Bool) := if b then "true" else "false"
  [("POLL_INTERVAL_SECONDS", word s.pollIntervalSeconds.toNat),
    ("BATCH_SIZE", word s.batchSize.toNat),
    ("MAX_DEGREE_OF_PARALLELISM", word s.parallelism.toNat),
    ("MAX_RETRY_COUNT", word s.retryCeiling.toNat),
    ("RETRY_DELAY_SECONDS", word s.retryDelaySeconds.toNat),
    ("ENABLE_CIRCUIT_BREAKER", flag s.breakerEnabled),
    ("CIRCUIT_BREAKER_FAILURE_THRESHOLD", word s.breakerThreshold.toNat),
    ("CIRCUIT_BREAKER_RESET_TIMEOUT_SECONDS", word s.breakerResetSeconds.toNat),
    ("ENABLE_IDEMPOTENCY", flag s.windowEnabled),
    ("IDEMPOTENCY_CACHE_HOURS", word s.windowHours.toNat)].map
    fun (name, value) => (variableStem ++ name, value)

end Outbox.Settings
