import Subledger.Decimal.Basic
import Subledger.Decimal.Round
import Subledger.Decimal.Arith
import Subledger.Decimal.Divide
import Subledger.Decimal.Parse
import Subledger.Text.Printable
import Subledger.Json.Value
import Subledger.Json.Double
import Subledger.Json.Scan
import Subledger.Json.Decode
import Subledger.Text.Blank
import Subledger.Ident.Uuid
import Subledger.Time.Instant
import Subledger.Error
import Subledger.Money.Basic
import Subledger.Tags
import Subledger.Side
import Subledger.Ledger.Status
import Subledger.Voucher.Status
import Subledger.Memo.Status
import Subledger.Income.Status
import Subledger.Expense.Status
import Subledger.Ledger.Policy
import Subledger.Ident.Kind
import Subledger.Version
import Subledger.LogFormat
import Subledger.Console.Reply
import Subledger.Console.Label
import Subledger.Console.Input
import Subledger.Wire.Leaf
import Subledger.Console.Stateless
import Subledger.Console.Line
import Subledger.Command
import Subledger.Validate
import Subledger.Ledger.Record
import Subledger.Ledger.Balance
import Subledger.Event
import Subledger.Ledger.Entry
import Subledger.Wire.Ledger
import Subledger.Console.Session
import Subledger.Console.LedgerSession
import Subledger.Wire.Column
import Subledger.Console.RecordsSession
import Subledger.Voucher.Basic
import Subledger.Wire.Voucher
import Subledger.Console.VoucherSession
import Subledger.Memo.Basic
import Subledger.Wire.Memo
import Subledger.Console.MemoSession
import Subledger.Income.Basic
import Subledger.Expense.Basic
import Subledger.Wire.Income
import Subledger.Wire.Expense
import Subledger.Console.BookingSession
import Subledger.Proofs.Decimal.Value
import Subledger.Proofs.Command
import Subledger.Proofs.Ledger.Step
import Subledger.Proofs.Ledger.Conservation
import Subledger.Proofs.Ledger.Reversal
import Subledger.Proofs.Ledger.Lifecycle
import Subledger.Proofs.Abort
import Subledger.Proofs.Ledger.Safety
import Subledger.Proofs.Booking.Step
import Subledger.Proofs.Voucher.Step
import Subledger.Proofs.Voucher.Allocation
import Subledger.Proofs.Voucher.Lifecycle
import Subledger.Proofs.Memo.Step
import Subledger.Proofs.Memo.Application
import Subledger.Proofs.Memo.Lifecycle
import Subledger.Proofs.Safety
import Subledger.Proofs.Ensures
import Subledger.Proofs.Versioning
import Subledger.Proofs.Time.Calendar
import Subledger.Proofs.Text.Digits
import Subledger.Proofs.Time.Text
import Subledger.Proofs.Text.Bytes
import Subledger.Proofs.Ident.Text
import Subledger.Proofs.Decimal.Text
import Subledger.Proofs.Json.Run
import Subledger.Proofs.Json.Strings
import Subledger.Proofs.Json.Documents
import Subledger.Proofs.Json.Shapes
import Subledger.Proofs.Wire.Column
import Subledger.Proofs.Booking.Workflow
import Subledger.Proofs.Refusal
import Subledger.Proofs.Decimal.Quotient
import Subledger.Proofs.Decimal.Drift
import Subledger.Proofs.Percentage
import Subledger.Proofs.Json.Stored
import Subledger.Proofs.Wire.Values
import Subledger.Proofs.Wire.Ledger
import Subledger.Proofs.Wire.Voucher
import Subledger.Proofs.Wire.Memo
import Subledger.Proofs.Wire.Booking
import Subledger.Proofs.Wire.States
import Subledger.Proofs.Ledger.RepeatReversal
import Subledger.Proofs.Money.Checked
import Subledger.Proofs.Ident.Forms
import Subledger.Proofs.Opening
