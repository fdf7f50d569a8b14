import Outbox.Text

/-!
# Log formats

The format of log lines, as an operator names it.
-/

namespace Outbox

/-- How log lines are written. -/
inductive LogFormat
  /-- One JSON object a line. -/
  | json
  | pretty
  | compact
  deriving DecidableEq, Repr

namespace LogFormat

instance : Inhabited LogFormat := ⟨json⟩

/-- A name that is no format. -/
structure Unknown where
  name : String
  deriving DecidableEq, Repr

/-- What an operator is told of a name that is no format. -/
def Unknown.message (e : Unknown) : String :=
  "unknown log format " ++ Text.quoted e.name ++ " (expected json, pretty or compact)"

/-- How an operator calls the format. -/
def name : LogFormat → String
  | json => "json"
  | pretty => "pretty"
  | compact => "compact"

/-- The format of a name, in any case of its ASCII letters and between blanks. -/
def parse (s : String) : Except Unknown LogFormat :=
  let folded := (Text.trim s).map Char.toLower
  match [json, pretty, compact].find? (name · = folded) with
  | some f => .ok f
  | none => .error ⟨folded⟩

/-- The format that a variable selects; JSON where it is missing or names no format. -/
def ofVariable (value : Option String) : LogFormat :=
  match value.map parse with
  | some (.ok f) => f
  | _ => json

end LogFormat

end Outbox
