import Subledger.Ledger.Record
import Subledger.Command
import Subledger.Validate
import Subledger.Side

/-! # Ledger balances

The money side of a receivable or payable: its total, what was paid, what is outstanding, its
state, and the payment records. While the entry is open the outstanding amount is the total
less the paid amount, and the paid amount is the sum of the active records. A reversal or
cancellation writes the outstanding amount off to zero and keeps the paid amount as history.
-/

namespace Subledger

/-- Totals, state, payment records and closing details of one ledger entry. -/
structure Balance where
  owner : Uuid
  currency : Currency
  total : Decimal
  paid : Decimal
  outstanding : Decimal
  status : LedgerStatus
  dueDate : Option Instant
  records : List PaymentRecord
  remark : String
  paidAt : Option Instant
  reversedAt : Option Instant
  reversalReason : Option String
  cancelledAt : Option Instant
  cancelReason : Option String

/-- One payment undone by a reversal, for the audit trail. -/
structure ReversedPayment where
  record : Uuid
  voucher : Uuid
  amount : Decimal
  appliedAt : Instant
  reversedAt : Instant
  /-- The identifier of the compensating record. -/
  compensation : Uuid

/-- What a reversal leaves to do: refund what was collected. -/
structure ReversalResult where
  refundRequired : Bool
  /-- What was paid when the entry was reversed. -/
  refundAmount : Money
  /-- What was outstanding when the entry was reversed, now written off. -/
  outstandingWaived : Money
  reversedCount : Nat
  /-- One per reversed record, in record order. -/
  compensations : List Uuid
  /-- Every record of the entry after the reversal. -/
  records : List PaymentRecord

namespace Balance

/-- A pending balance for a total that was already checked to be positive. -/
def opened (owner : Uuid) (total : Money) (dueDate : Option Instant) : Balance :=
  ⟨owner, total.currency, total.amount, Decimal.zero, total.amount, .pending, dueDate, [], "",
    none, none, none, none, none⟩

/-- The total as money. -/
def totalMoney (b : Balance) : Money := ⟨b.total, b.currency⟩

/-- The paid amount as money. -/
def paidMoney (b : Balance) : Money := ⟨b.paid, b.currency⟩

/-- The outstanding amount as money. -/
def outstandingMoney (b : Balance) : Money := ⟨b.outstanding, b.currency⟩

/-- Applies a payment through a voucher. Refused unless the entry is pending or partial, the
amount is positive and in the ledger's currency, it does not exceed the outstanding amount,
the voucher is given, and the new paid amount fits. The entry becomes paid when nothing is
left outstanding, partial otherwise. Gives the new record and whether the entry is settled. -/
def applyPayment (side : Side) (b : Balance) (amount : Money) (voucher : Uuid) (remark : String)
    (at_ : Instant) : Cmd (Balance × PaymentRecord × Bool) := do
  unless b.status.canApplyPayment do
    Cmd.refuse (.invalidState s!"Cannot apply payment to {side.entryNoun} in {b.status.tag} status")
  let value ← Cmd.check (Validate.positiveAmount amount b.currency "Payment amount")
  if b.outstanding.lt value then
    Cmd.refuse (.invariant .exceedsOutstanding
      s!"Payment amount {value} exceeds outstanding amount {b.outstanding}")
  Cmd.check (Validate.present .invalidVoucher s!"{side.voucherLabel} ID cannot be empty" voucher)
  let paid ← match Decimal.add? b.paid value with
    | some p => pure p
    | none => Cmd.refuse (.validation .invalidAmount "paid amount overflow")
  let record := PaymentRecord.new (← Cmd.freshId) b.owner voucher value remark at_
  let outstanding ← Cmd.minus b.total paid
  let settled := outstanding.isZero
  pure ({ b with
    records := b.records ++ [record], paid := paid, outstanding := outstanding
    status := if settled then .paid else .partlyPaid
    paidAt := if settled then some at_ else b.paidAt }, record, settled)

/-- Marks every active record reversed, drawing a compensation identifier for each. -/
def reverseRecords (reason : String) (at_ : Instant) :
    List PaymentRecord → Cmd (List PaymentRecord × List ReversedPayment)
  | [] => pure ([], [])
  | r :: rest => do
    if r.isActive then
      let compensation ← Cmd.freshId
      let line : ReversedPayment := ⟨r.id, r.voucher, r.amount, r.appliedAt, at_, compensation⟩
      let (records, lines) ← reverseRecords reason at_ rest
      pure (r.stamp reason at_ :: records, line :: lines)
    else
      let (records, lines) ← reverseRecords reason at_ rest
      pure (r :: records, lines)

/-- Reverses the entry: every active record is marked reversed, the outstanding amount is
written off and the paid amount is kept as the refund due. Refused once the entry is closed or
without a reason. Gives the state before, the result and the audit lines. -/
def reverse (side : Side) (b : Balance) (reason : String) (at_ : Instant) :
    Cmd (Balance × LedgerStatus × ReversalResult × List ReversedPayment) := do
  if b.status.isTerminal then
    Cmd.refuse (.invalidState s!"Cannot reverse {side.entryNoun} in {b.status.tag} status")
  Cmd.check (Validate.nonEmpty .invalidReason "Reversal reason is required" reason)
  let (records, audit) ← reverseRecords reason at_ b.records
  let result : ReversalResult :=
    ⟨b.paid.isPositive, b.paidMoney, b.outstandingMoney, audit.length,
      audit.map (·.compensation), records⟩
  pure ({ b with
    records := records, status := .reversed, reversedAt := some at_
    reversalReason := some reason, outstanding := Decimal.zero }, b.status, result, audit)

/-- Cancels an entry nothing was paid against. Refused once closed, when partial or with a
paid amount above zero, or without a reason. -/
def cancel (side : Side) (b : Balance) (reason : String) (at_ : Instant) : Outcome Balance := do
  if b.status.isTerminal then
    throw (.invalidState s!"Cannot cancel {side.entryNoun} in {b.status.tag} status")
  if b.status == .partlyPaid || b.paid.isPositive then
    throw (.invariant .hasPayments s!"Cannot cancel {side.entryNoun} with existing payments")
  Validate.nonEmpty .invalidReason "Cancel reason is required" reason
  pure { b with
    status := .cancelled, cancelledAt := some at_, cancelReason := some reason
    outstanding := Decimal.zero }

/-- Sets or clears the due date, unless the entry is closed. -/
def setDueDate (side : Side) (b : Balance) (dueDate : Option Instant) : Outcome Balance :=
  if b.status.isTerminal then
    .error (.invalidState s!"Cannot modify due date for {side.entryNoun} in terminal state")
  else .ok { b with dueDate := dueDate }

/-- The sum of the amounts of the active records; an overflow aborts. -/
def activeTotal (b : Balance) : Except Failure Decimal :=
  ((b.records.filter PaymentRecord.isActive).foldlM (fun acc r => Cmd.plus acc r.amount)
    Decimal.zero).run' (Fresh.avoiding [])

/-- The paid share of the total in percent. -/
def paidPercentage (b : Balance) : Outcome Decimal := percentage b.paid b.total

/-- Whether the due date has passed while the entry is still open. -/
def isOverdue (b : Balance) (now : Instant) : Bool :=
  match b.dueDate with
  | some due => !b.status.isTerminal && due.before now
  | none => false

/-- Whole days past the due date; zero when not overdue. -/
def daysOverdue (b : Balance) (now : Instant) : Int :=
  match b.dueDate with
  | some due => if b.isOverdue now then now.daysSince due else 0
  | none => 0

end Balance

end Subledger
