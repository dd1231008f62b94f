import Subledger.Wire.Ledger
import Subledger.Text.Blank

/-! # The payment records column

A stored column of payment records is JSON text: a list of records in their stored form, or
`null`. A missing column, or one of narrow ASCII blank space only, holds no records; any other
text must read as the whole column, and a text that does not read is refused with the
reader's message.
-/

namespace Subledger

namespace PaymentRecord

/-- Reads a stored column of payment records; `none` is a missing column. -/
def decodeColumn (column : Option String) : Except String (List PaymentRecord) :=
  match column with
  | none => .ok []
  | some text =>
    if Text.isAsciiBlankOnly text then .ok []
    else
      match Wire.recordsShape.decodeText text with
      | .ok v => .ok (Wire.recordsOf v)
      | .error m => .error s!"malformed payment records column: {m}"

/-- The stored column text of a list of payment records, compact and in field order. -/
def encodeColumn (records : List PaymentRecord) : String :=
  (Json.arr (records.map Wire.recordJson)).render

end PaymentRecord

end Subledger
