import Subledger.Console.Session
import Subledger.Wire.Column

/-! # Payment records column sessions

A session over a stored column of payment records: the column is read first, then each step
marks a record reversed, writes the column back or reports the records' facts. Reversal reads
its policy before it looks the record up, so an unknown policy is refused even for an index
past the end.
-/

namespace Subledger

namespace Console

/-- The facts a query step reports for one record. -/
def recordFacts (r : PaymentRecord) : Json :=
  .obj [("record_id", Json.ofUuid r.id), ("status", .str r.status.tag),
    ("is_active", .bool r.isActive), ("is_reversed", .bool r.isReversed),
    ("amount", Json.ofDecimal r.amount), ("remark", .str r.remark),
    ("applied_at", Json.ofInstant r.appliedAt), ("reversed_at", Json.ofOptInstant r.reversedAt),
    ("reversal_reason", Json.ofOptString r.reversalReason)]

/-- The stored form of a column's records. -/
def recordsJson (records : List PaymentRecord) : Json := .arr (records.map Wire.recordJson)

/-- Replaces the record at an index by a command's outcome on it; an index past the end is
refused before the command runs. -/
def reviseRecord (records : List PaymentRecord) (index : Nat)
    (revise : PaymentRecord → Outcome PaymentRecord) : Ask (Outcome (List PaymentRecord)) :=
  match records[index]? with
  | none => .error (Reply.failure "IndexOutOfRange"
      s!"index {index} out of range for {records.length} records")
  | some r => .ok ((revise r).map fun r' => records.set index r')

/-- One step of a records session. -/
def recordsStep (records : List PaymentRecord) (step : Json) :
    Ask (Cmd (Json × List PaymentRecord)) :=
  match Ask.field step "do" with
  | .error answer => .error answer
  | .ok (.str "mark_reversed") => updateStep do
    let index ← Ask.nat step "index"
    let reason ← Ask.text step "reason"
    let at_ ← Ask.instant step "at"
    let policy ← Ask.outcome (RepeatReversal.parse (← Ask.text step "policy"))
    reviseRecord records index fun r => r.markReversed reason at_ policy
  | .ok (.str "encode") =>
    queryStep records (pure (.ok (.obj [("bytes", .str (PaymentRecord.encodeColumn records))])))
  | .ok (.str "query") => queryStep records (pure (.ok (.arr (records.map recordFacts))))
  | .ok (.str name) => .error (Reply.badInput s!"unknown step {name}")
  | .ok _ => .error (Ask.mustBe "do" "a string")

/-- The column of a records session request, read after its owner is checked: text, or
nothing when absent or `null`. -/
def recordsColumn (req : Json) : Ask (Option String) := do
  let owner ← Ask.text req "owner"
  unless owner == "receivable" || owner == "payable" do
    throw (Reply.badInput s!"unknown owner {owner}")
  match Ask.get req "column" with
  | .str text => pure (some text)
  | .null => pure none
  | _ => throw (Reply.badInput "column must be a string or null")

/-- Answers a records session request: check the owner, read the column, then run the
steps, drawing no `taken` identifier. -/
def runRecordsSession (taken : List Uuid) (req : Json) : Json :=
  let steps := match Ask.get req "steps" with
    | .arr items => items
    | _ => []
  match recordsColumn req with
  | .error answer => answer
  | .ok column =>
    match PaymentRecord.decodeColumn column with
    | .ok records =>
      .obj [("decode", .obj [("ok", .null), ("state", recordsJson records)]),
        ("steps", .arr (runStepsWith recordsJson recordsStep records (Fresh.avoiding taken) steps))]
    | .error m => .obj [("decode", Reply.failure "Decode" m), ("steps", .arr [])]

end Console

end Subledger
