import Subledger.Expense.Status
import Subledger.Voucher.Status
import Subledger.Validate
import Subledger.Event

/-! # Expenses

An expense is booked as a draft, which may still be edited, then submitted for approval; a
submitted expense is approved or rejected, and a draft or submitted one can be cancelled. An
approved expense is paid out once, with the way it was paid. Every successful command raises
the version by one and stamps the time.
-/

namespace Subledger

/-- An expense record. -/
structure Expense where
  id : Uuid
  tenant : Uuid
  number : String
  category : ExpenseCategory
  amount : Money
  description : String
  /-- The day the expense was incurred. -/
  incurredAt : Instant
  status : ExpenseStatus
  payout : PayoutStatus
  method : Option PaymentMethod
  paidAt : Option Instant
  remark : String
  attachments : List String
  submittedAt : Option Instant
  submittedBy : Option Uuid
  approvedAt : Option Instant
  approvedBy : Option Uuid
  approvalRemark : String
  rejectedAt : Option Instant
  rejectedBy : Option Uuid
  rejectionReason : Option String
  cancelledAt : Option Instant
  cancelledBy : Option Uuid
  cancelReason : Option String
  version : Nat
  createdAt : Instant
  updatedAt : Instant

/-- The request to book an expense. -/
structure ExpenseDraft where
  tenant : Uuid
  number : String
  category : ExpenseCategory
  amount : Money
  description : String
  incurredAt : Instant
  occurredAt : Instant

/-- What happened to an expense; each carries the record as it is after the change. -/
inductive ExpenseEvent where
  | created (expense : Expense) (at_ : Instant)
  | submitted (expense : Expense) (by_ : Uuid) (at_ : Instant)
  | approved (expense : Expense) (by_ : Uuid) (at_ : Instant)
  | rejected (expense : Expense) (by_ : Uuid) (reason : String) (at_ : Instant)
  | cancelled (expense : Expense) (by_ : Uuid) (reason : String) (at_ : Instant)
  | paid (expense : Expense) (method : PaymentMethod) (at_ : Instant)

namespace ExpenseEvent

/-- The name of the event. -/
def name : ExpenseEvent → String
  | .created .. => "Created"
  | .submitted .. => "Submitted"
  | .approved .. => "Approved"
  | .rejected .. => "Rejected"
  | .cancelled .. => "Cancelled"
  | .paid .. => "Paid"

/-- The last part of the event type. -/
def kind : ExpenseEvent → String
  | .created .. => "created"
  | .submitted .. => "submitted"
  | .approved .. => "approved"
  | .rejected .. => "rejected"
  | .cancelled .. => "cancelled"
  | .paid .. => "paid"

/-- When the event happened. -/
def occurredAt : ExpenseEvent → Instant
  | .created _ at_ | .submitted _ _ at_ | .approved _ _ at_ | .rejected _ _ _ at_
  | .cancelled _ _ _ at_ | .paid _ _ at_ => at_

end ExpenseEvent

namespace Expense

/-- The type of document, for envelopes. -/
def aggregateType : String := "finance.expense"

/-- Seals an event of this record at its current version. -/
def announce (r : Expense) (event : ExpenseEvent) : Cmd (Envelope ExpenseEvent) :=
  Envelope.wrap r.tenant r.id aggregateType r.version s!"{aggregateType}.{event.kind}"
    event.occurredAt event

/-- Raises the version by one (wrapping at `2 ^ 64`) and stamps the time of the change. -/
def touch (r : Expense) (at_ : Instant) : Expense :=
  { r with version := (r.version + 1) % Nat.pow 2 64, updatedAt := at_ }

/-- Books a draft expense. Refused for a bad document number, then for bad details. -/
def create (d : ExpenseDraft) : Cmd (Expense × Envelope ExpenseEvent) := do
  Cmd.check (Validate.documentNumber .invalidExpenseNumber "Expense" d.number)
  Cmd.check (Validate.details d.amount d.description)
  let id ← Cmd.freshId
  let r : Expense := ⟨id, d.tenant, d.number, d.category, d.amount, d.description, d.incurredAt,
    .draft, .unpaid, none, none, "", [], none, none, none, none, "", none, none, none, none, none,
    none, 1, d.occurredAt, d.occurredAt⟩
  pure (r, ← r.announce (.created r d.occurredAt))

/-- Edits category, amount, description and date of a draft. Refused when not a draft, then
for bad details. -/
def update (r : Expense) (category : ExpenseCategory) (amount : Money) (description : String)
    (incurredAt at_ : Instant) : Outcome Expense := do
  unless r.status == .draft do
    throw (.invalidState "Can only update expense in draft status")
  Validate.details amount description
  pure (Expense.touch
    { r with
      category := category
      amount := amount
      description := description
      incurredAt := incurredAt } at_)

/-- Submits a draft for approval. Refused when not a draft, then for a missing user. -/
def submit (r : Expense) (user : Uuid) (at_ : Instant) : Cmd (Expense × Envelope ExpenseEvent) := do
  unless r.status.canSubmit do
    Cmd.refuse (.invalidState s!"Cannot submit expense in {r.status.tag} status")
  Cmd.check (Validate.present .invalidUser "Submitter user ID cannot be empty" user)
  let r := { r with status := .pending, submittedAt := some at_, submittedBy := some user }
  let r := r.touch at_
  pure (r, ← r.announce (.submitted r user at_))

/-- Approves a submitted expense with a remark. Refused when not submitted, then for a
missing user. -/
def approve (r : Expense) (user : Uuid) (remark : String) (at_ : Instant) :
    Cmd (Expense × Envelope ExpenseEvent) := do
  unless r.status.canApprove do
    Cmd.refuse (.invalidState s!"Cannot approve expense in {r.status.tag} status")
  Cmd.check (Validate.present .invalidUser "Approver user ID cannot be empty" user)
  let r := Expense.touch
    { r with
      status := .approved
      approvedAt := some at_
      approvedBy := some user
      approvalRemark := remark } at_
  pure (r, ← r.announce (.approved r user at_))

/-- Rejects a submitted expense. Refused when not submitted, then for a missing user or
reason. -/
def reject (r : Expense) (user : Uuid) (reason : String) (at_ : Instant) :
    Cmd (Expense × Envelope ExpenseEvent) := do
  unless r.status.canApprove do
    Cmd.refuse (.invalidState s!"Cannot reject expense in {r.status.tag} status")
  Cmd.check (Validate.present .invalidUser "Rejector user ID cannot be empty" user)
  Cmd.check (Validate.nonEmpty .invalidReason "Rejection reason is required" reason)
  let r := Expense.touch
    { r with
      status := .rejected
      rejectedAt := some at_
      rejectedBy := some user
      rejectionReason := some reason } at_
  pure (r, ← r.announce (.rejected r user reason at_))

/-- Cancels a draft or submitted expense. Refused when neither, then for a missing user or
reason. -/
def cancel (r : Expense) (user : Uuid) (reason : String) (at_ : Instant) :
    Cmd (Expense × Envelope ExpenseEvent) := do
  unless r.status.canCancel do
    Cmd.refuse (.invalidState s!"Cannot cancel expense in {r.status.tag} status")
  Cmd.check (Validate.present .invalidUser "Canceller user ID cannot be empty" user)
  Cmd.check (Validate.nonEmpty .invalidReason "Cancel reason is required" reason)
  let r := Expense.touch
    { r with
      status := .cancelled
      cancelledAt := some at_
      cancelledBy := some user
      cancelReason := some reason } at_
  pure (r, ← r.announce (.cancelled r user reason at_))

/-- Records that an approved expense was paid out; only once. -/
def markPaid (r : Expense) (method : PaymentMethod) (at_ : Instant) :
    Cmd (Expense × Envelope ExpenseEvent) := do
  unless r.status == .approved do
    Cmd.refuse (.invalidState "Only approved expenses can be marked as paid")
  if r.payout == .paid then
    Cmd.refuse (.invariant .alreadyPaid "Expense is already paid")
  let r := Expense.touch
    { r with
      payout := .paid
      method := some method
      paidAt := some at_ } at_
  pure (r, ← r.announce (.paid r method at_))

/-- Replaces the remark; always allowed. -/
def setRemark (r : Expense) (remark : String) (at_ : Instant) : Expense :=
  { r with remark := remark }.touch at_

/-- Replaces the attachment links; always allowed. -/
def setAttachments (r : Expense) (urls : List String) (at_ : Instant) : Expense :=
  { r with attachments := urls }.touch at_

end Expense

end Subledger
