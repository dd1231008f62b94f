import Subledger.Income.Status
import Subledger.Voucher.Status
import Subledger.Validate
import Subledger.Event

/-! # Other income

Income that does not come from sales (subsidies, interest, rent, asset disposals) is booked as
a draft, which may still be edited, then confirmed or cancelled. Once confirmed, the arrival
of the money is recorded once, with the way it was paid. Every successful command raises the
version by one and stamps the time.
-/

namespace Subledger

/-- An income record. -/
structure Income where
  id : Uuid
  tenant : Uuid
  number : String
  category : IncomeCategory
  amount : Money
  description : String
  /-- The day the income is booked for. -/
  receivedAt : Instant
  status : IncomeStatus
  receipt : ReceiptStatus
  method : Option PaymentMethod
  actualReceivedAt : Option Instant
  remark : String
  attachments : List String
  confirmedAt : Option Instant
  confirmedBy : Option Uuid
  cancelledAt : Option Instant
  cancelledBy : Option Uuid
  cancelReason : Option String
  version : Nat
  createdAt : Instant
  updatedAt : Instant

/-- The request to book an income. -/
structure IncomeDraft where
  tenant : Uuid
  number : String
  category : IncomeCategory
  amount : Money
  description : String
  receivedAt : Instant
  occurredAt : Instant

/-- What happened to an income; each carries the record as it is after the change. -/
inductive IncomeEvent where
  | created (income : Income) (at_ : Instant)
  | confirmed (income : Income) (by_ : Uuid) (at_ : Instant)
  | cancelled (income : Income) (by_ : Uuid) (reason : String) (at_ : Instant)
  | received (income : Income) (method : PaymentMethod) (at_ : Instant)

namespace IncomeEvent

/-- The name of the event. -/
def name : IncomeEvent → String
  | .created .. => "Created"
  | .confirmed .. => "Confirmed"
  | .cancelled .. => "Cancelled"
  | .received .. => "Received"

/-- The last part of the event type. -/
def kind : IncomeEvent → String
  | .created .. => "created"
  | .confirmed .. => "confirmed"
  | .cancelled .. => "cancelled"
  | .received .. => "received"

/-- When the event happened. -/
def occurredAt : IncomeEvent → Instant
  | .created _ at_ | .confirmed _ _ at_ | .cancelled _ _ _ at_ | .received _ _ at_ => at_

end IncomeEvent

namespace Income

/-- The type of document, for envelopes. -/
def aggregateType : String := "finance.other_income"

/-- Seals an event of this record at its current version. -/
def announce (r : Income) (event : IncomeEvent) : Cmd (Envelope IncomeEvent) :=
  Envelope.wrap r.tenant r.id aggregateType r.version s!"{aggregateType}.{event.kind}"
    event.occurredAt event

/-- Raises the version by one (wrapping at `2 ^ 64`) and stamps the time of the change. -/
def touch (r : Income) (at_ : Instant) : Income :=
  { r with version := (r.version + 1) % Nat.pow 2 64, updatedAt := at_ }

/-- Books a draft income. Refused for a bad document number, then for bad details. -/
def create (d : IncomeDraft) : Cmd (Income × Envelope IncomeEvent) := do
  Cmd.check (Validate.documentNumber .invalidIncomeNumber "Income" d.number)
  Cmd.check (Validate.details d.amount d.description)
  let id ← Cmd.freshId
  let r : Income := ⟨id, d.tenant, d.number, d.category, d.amount, d.description, d.receivedAt,
    .draft, .pending, none, none, "", [], none, none, none, none, none, 1, d.occurredAt,
    d.occurredAt⟩
  pure (r, ← r.announce (.created r d.occurredAt))

/-- Edits category, amount, description and date of a draft. Refused when not a draft, then
for bad details. -/
def update (r : Income) (category : IncomeCategory) (amount : Money) (description : String)
    (receivedAt at_ : Instant) : Outcome Income := do
  unless r.status == .draft do
    throw (.invalidState "Can only update income in draft status")
  Validate.details amount description
  pure (Income.touch
    { r with
      category := category
      amount := amount
      description := description
      receivedAt := receivedAt } at_)

/-- Confirms a draft. Refused when not a draft, then for a missing user. -/
def confirm (r : Income) (user : Uuid) (at_ : Instant) : Cmd (Income × Envelope IncomeEvent) := do
  unless r.status.canConfirm do
    Cmd.refuse (.invalidState s!"Cannot confirm income in {r.status.tag} status")
  Cmd.check (Validate.present .invalidUser "Confirming user ID cannot be empty" user)
  let r := { r with status := .confirmed, confirmedAt := some at_, confirmedBy := some user }
  let r := r.touch at_
  pure (r, ← r.announce (.confirmed r user at_))

/-- Cancels a draft. Refused when not a draft, then for a missing user or reason. -/
def cancel (r : Income) (user : Uuid) (reason : String) (at_ : Instant) :
    Cmd (Income × Envelope IncomeEvent) := do
  unless r.status.canCancel do
    Cmd.refuse (.invalidState s!"Cannot cancel income in {r.status.tag} status")
  Cmd.check (Validate.present .invalidUser "Cancelling user ID cannot be empty" user)
  Cmd.check (Validate.nonEmpty .invalidReason "Cancel reason is required" reason)
  let r := Income.touch
    { r with
      status := .cancelled
      cancelledAt := some at_
      cancelledBy := some user
      cancelReason := some reason } at_
  pure (r, ← r.announce (.cancelled r user reason at_))

/-- Records that the money of a confirmed income arrived; only once. -/
def markReceived (r : Income) (method : PaymentMethod) (at_ : Instant) :
    Cmd (Income × Envelope IncomeEvent) := do
  unless r.status == .confirmed do
    Cmd.refuse (.invalidState "Only confirmed income can be marked as received")
  if r.receipt == .received then
    Cmd.refuse (.invariant .alreadyReceived "Income is already received")
  let r := Income.touch
    { r with
      receipt := .received
      method := some method
      actualReceivedAt := some at_ } at_
  pure (r, ← r.announce (.received r method at_))

/-- Replaces the remark; always allowed. -/
def setRemark (r : Income) (remark : String) (at_ : Instant) : Income :=
  { r with remark := remark }.touch at_

/-- Replaces the attachment links; always allowed. -/
def setAttachments (r : Income) (urls : List String) (at_ : Instant) : Income :=
  { r with attachments := urls }.touch at_

end Income

end Subledger
