import Subledger.Text.Blank

/-! # Log output format

Logs are JSON lines unless a human-readable format is asked for by name. The logs themselves
are not part of the ledger's behaviour; only the choice of format is.
-/

namespace Subledger

/-- The format of log lines. -/
inductive LogFormat where
  /-- One JSON object per line, the default. -/
  | json
  /-- Human-readable text. -/
  | pretty
  deriving BEq, Inhabited

namespace LogFormat

/-- The name of a format. -/
def name : LogFormat → String
  | .json => "Json"
  | .pretty => "Pretty"

/-- The format a setting selects: `pretty` or `text` (trimmed, in any ASCII case) select
human-readable text; anything else, or no setting, selects JSON. -/
def ofSetting (value : Option String) : LogFormat :=
  match value.map (fun s => Text.asciiLower (Text.trim s)) with
  | some "pretty" | some "text" => .pretty
  | _ => .json

end LogFormat

end Subledger
