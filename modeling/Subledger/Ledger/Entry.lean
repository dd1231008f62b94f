import Subledger.Ledger.Balance
import Subledger.Event
import Subledger.Version

/-! # Receivables and payables

A ledger entry records what a customer owes (a receivable) or what is owed to a supplier (a
payable), raised from an order, a return or by hand. Payments arrive through vouchers until
the entry is paid; an open entry can be reversed (payments become refunds) or, if nothing was
paid, cancelled. Every successful command raises the version by one and stamps the time.
-/

namespace Subledger

/-- A receivable (sales side) or payable (purchases side). -/
structure Entry where
  side : Side
  id : Uuid
  tenant : Uuid
  number : String
  party : Uuid
  partyName : String
  sourceType : SourceType
  source : Uuid
  sourceNumber : String
  balance : Balance
  version : Nat
  createdAt : Instant
  updatedAt : Instant

/-- The request to open a ledger entry. -/
structure EntryDraft where
  tenant : Uuid
  number : String
  party : Uuid
  partyName : String
  sourceType : SourceType
  source : Uuid
  sourceNumber : String
  total : Money
  dueDate : Option Instant
  occurredAt : Instant

/-- What happened to a ledger entry. -/
inductive EntryEvent where
  | created (draft : EntryDraft) (entry : Uuid)
  | partlyPaid (entry : Entry) (record voucher : Uuid) (payment : Money)
  | paid (entry : Entry) (record voucher : Uuid) (payment : Money)
  | reversed (entry : Entry) (previous : LedgerStatus) (result : ReversalResult)
      (reason : String) (audit : List ReversedPayment) (at_ : Instant)
  | cancelled (entry : Entry) (reason : String) (at_ : Instant)

namespace EntryEvent

/-- The name of the event. -/
def name : EntryEvent → String
  | .created .. => "Created"
  | .partlyPaid .. => "PartiallyPaid"
  | .paid .. => "Paid"
  | .reversed .. => "Reversed"
  | .cancelled .. => "Cancelled"

/-- The last part of the event type. -/
def kind : EntryEvent → String
  | .created .. => "created"
  | .partlyPaid .. => "partially_paid"
  | .paid .. => "paid"
  | .reversed .. => "reversed"
  | .cancelled .. => "cancelled"

/-- When the event happened. -/
def occurredAt : EntryEvent → Instant
  | .created d _ => d.occurredAt
  | .partlyPaid e .. | .paid e .. => e.updatedAt
  | .reversed _ _ _ _ _ at_ | .cancelled _ _ at_ => at_

end EntryEvent

namespace Entry

/-- The type of document, for envelopes. -/
def aggregateType (side : Side) : String :=
  side.pick "finance.account_receivable" "finance.account_payable"

/-- The full event type: `finance.receivable.paid` and the like. -/
def eventType (side : Side) (e : EntryEvent) : String :=
  s!"finance.{side.entryNoun}.{e.kind}"

/-- Seals an event of this entry at its current version. -/
def announce (entry : Entry) (event : EntryEvent) : Cmd (Envelope EntryEvent) :=
  Envelope.wrap entry.tenant entry.id (aggregateType entry.side) entry.version
    (eventType entry.side event) event.occurredAt event

/-- Raises the version by one (wrapping at `2 ^ 64`) and stamps the time of the change. -/
def touch (entry : Entry) (at_ : Instant) : Entry :=
  { entry with version := (entry.version + 1) % Nat.pow 2 64, updatedAt := at_ }

/-- The error code of a bad document number. -/
def numberCode (side : Side) : ErrorCode :=
  side.pick .invalidReceivableNumber .invalidPayableNumber

/-- Opens a pending entry. Refused, in this order, for a bad document number, a missing party
or party name, a missing source document or source number, and a total that is not
positive. -/
def create (side : Side) (d : EntryDraft) : Cmd (Entry × Envelope EntryEvent) := do
  Cmd.check (Validate.documentNumber (numberCode side) side.entryLabel d.number)
  Cmd.check (Validate.present (side.pick .invalidCustomer .invalidSupplier)
    s!"{side.partyLabel} ID cannot be empty" d.party)
  Cmd.check (Validate.nonEmpty (side.pick .invalidCustomerName .invalidSupplierName)
    s!"{side.partyLabel} name cannot be empty" d.partyName)
  Cmd.check (Validate.present .invalidSourceId "Source ID cannot be empty" d.source)
  Cmd.check (Validate.nonEmpty .invalidSourceNumber "Source number cannot be empty" d.sourceNumber)
  unless d.total.isPositive do
    Cmd.refuse (.validation .invalidAmount "Total amount must be positive")
  let id ← Cmd.freshId
  let entry : Entry := ⟨side, id, d.tenant, d.number, d.party, d.partyName, d.sourceType, d.source,
    d.sourceNumber, Balance.opened id d.total d.dueDate, 1, d.occurredAt, d.occurredAt⟩
  let envelope ← entry.announce (.created d id)
  pure (entry, envelope)

/-- Applies a payment through a voucher (see `Balance.applyPayment`); the event says whether
the entry is now paid or still partial. -/
def applyPayment (entry : Entry) (amount : Money) (voucher : Uuid) (remark : String)
    (at_ : Instant) : Cmd (Entry × Envelope EntryEvent) := do
  let (balance, record, settled) ← entry.balance.applyPayment entry.side amount voucher remark at_
  let entry := { entry with balance := balance }.touch at_
  let event := if settled then EntryEvent.paid entry record.id voucher amount
    else .partlyPaid entry record.id voucher amount
  pure (entry, ← entry.announce event)

/-- Reverses the entry (see `Balance.reverse`). -/
def reverse (entry : Entry) (reason : String) (at_ : Instant) :
    Cmd (Entry × ReversalResult × Envelope EntryEvent) := do
  let (balance, previous, result, audit) ← entry.balance.reverse entry.side reason at_
  let entry := { entry with balance := balance }.touch at_
  pure (entry, result, ← entry.announce (.reversed entry previous result reason audit at_))

/-- Cancels the entry (see `Balance.cancel`). -/
def cancel (entry : Entry) (reason : String) (at_ : Instant) : Cmd (Entry × Envelope EntryEvent) := do
  let balance ← Cmd.check (entry.balance.cancel entry.side reason at_)
  let entry := { entry with balance := balance }.touch at_
  pure (entry, ← entry.announce (.cancelled entry reason at_))

/-- Sets or clears the due date of an open entry. -/
def setDueDate (entry : Entry) (dueDate : Option Instant) (at_ : Instant) : Outcome Entry := do
  let balance ← entry.balance.setDueDate entry.side dueDate
  pure ({ entry with balance := balance }.touch at_)

/-- Replaces the remark; always allowed. -/
def setRemark (entry : Entry) (remark : String) (at_ : Instant) : Entry :=
  { entry with balance := { entry.balance with remark := remark } }.touch at_

end Entry

end Subledger
