import Subledger.Voucher.Status
import Subledger.Validate
import Subledger.Event
import Subledger.Side

/-! # Receipt and payment vouchers

A voucher records money received from a customer (a receipt voucher, sales side) or paid to a
supplier (a payment voucher, purchases side). Once confirmed, its amount is split over
receivables or payables by allocations, at most one per entry, until nothing is left to
allocate; a voucher nothing was allocated from can be cancelled. The allocated and unallocated
amounts always add up to the voucher's amount after an allocation, which recomputes the
unallocated part from the two others. Every successful command raises the version by one and
stamps the time.
-/

namespace Subledger

/-- The share of a voucher assigned to one receivable or payable. -/
structure Allocation where
  id : Uuid
  voucher : Uuid
  /-- The receivable or payable the share goes to. -/
  target : Uuid
  targetNumber : String
  amount : Decimal
  allocatedAt : Instant
  remark : String

/-- A receipt voucher (sales side) or payment voucher (purchases side). -/
structure Voucher where
  side : Side
  id : Uuid
  tenant : Uuid
  number : String
  party : Uuid
  partyName : String
  currency : Currency
  amount : Decimal
  allocated : Decimal
  unallocated : Decimal
  method : PaymentMethod
  reference : String
  status : VoucherStatus
  /-- The day the money was received or paid. -/
  date : Instant
  allocations : List Allocation
  remark : String
  confirmedAt : Option Instant
  confirmedBy : Option Uuid
  cancelledAt : Option Instant
  cancelledBy : Option Uuid
  cancelReason : Option String
  version : Nat
  createdAt : Instant
  updatedAt : Instant

/-- The request to open a voucher. -/
structure VoucherDraft where
  tenant : Uuid
  number : String
  party : Uuid
  partyName : String
  amount : Money
  method : PaymentMethod
  date : Instant
  occurredAt : Instant

/-- What happened to a voucher; each carries the voucher as it is after the change. -/
inductive VoucherEvent where
  | created (voucher : Voucher) (amount : Money) (at_ : Instant)
  | confirmed (voucher : Voucher) (by_ : Uuid) (at_ : Instant)
  | allocated (voucher : Voucher) (allocation : Allocation) (amount : Money)
      (fullyAllocated : Bool) (at_ : Instant)
  | cancelled (voucher : Voucher) (previous : VoucherStatus) (by_ : Uuid) (reason : String)
      (at_ : Instant)

namespace VoucherEvent

/-- The name of the event. -/
def name : VoucherEvent → String
  | .created .. => "Created"
  | .confirmed .. => "Confirmed"
  | .allocated .. => "Allocated"
  | .cancelled .. => "Cancelled"

/-- The last part of the event type. -/
def kind : VoucherEvent → String
  | .created .. => "created"
  | .confirmed .. => "confirmed"
  | .allocated .. => "allocated"
  | .cancelled .. => "cancelled"

/-- When the event happened. -/
def occurredAt : VoucherEvent → Instant
  | .created _ _ at_ | .confirmed _ _ at_ | .allocated _ _ _ _ at_ | .cancelled _ _ _ _ at_ => at_

end VoucherEvent

namespace Voucher

/-- The type of document, for envelopes. -/
def aggregateType (side : Side) : String := s!"finance.{side.voucherNoun}"

/-- Seals an event of this voucher at its current version. -/
def announce (v : Voucher) (event : VoucherEvent) : Cmd (Envelope VoucherEvent) :=
  Envelope.wrap v.tenant v.id (aggregateType v.side) v.version
    s!"finance.{v.side.voucherNoun}.{event.kind}" event.occurredAt event

/-- Raises the version by one (wrapping at `2 ^ 64`) and stamps the time of the change. -/
def touch (v : Voucher) (at_ : Instant) : Voucher :=
  { v with version := (v.version + 1) % Nat.pow 2 64, updatedAt := at_ }

/-- The amount as money. -/
def amountMoney (v : Voucher) : Money := ⟨v.amount, v.currency⟩

/-- The allocated part as money. -/
def allocatedMoney (v : Voucher) : Money := ⟨v.allocated, v.currency⟩

/-- The part left to allocate as money. -/
def unallocatedMoney (v : Voucher) : Money := ⟨v.unallocated, v.currency⟩

/-- Whether nothing is left to allocate. -/
def isFullyAllocated (v : Voucher) : Bool := v.unallocated.isZero

/-- The allocated share of the amount in percent, two places. -/
def allocatedPercentage (v : Voucher) : Outcome Decimal := percentage v.allocated v.amount

/-- The allocation made to a receivable or payable, if any. -/
def allocationFor? (v : Voucher) (target : Uuid) : Option Allocation :=
  v.allocations.find? (·.target == target)

/-- Opens a draft voucher. Refused, in this order, for a bad document number, a missing
party or party name, and an amount that is not positive. -/
def create (side : Side) (d : VoucherDraft) : Cmd (Voucher × Envelope VoucherEvent) := do
  Cmd.check (Validate.documentNumber .invalidVoucherNumber "Voucher" d.number)
  Cmd.check (Validate.present (side.pick .invalidCustomer .invalidSupplier)
    s!"{side.partyLabel} ID cannot be empty" d.party)
  Cmd.check (Validate.nonEmpty (side.pick .invalidCustomerName .invalidSupplierName)
    s!"{side.partyLabel} name cannot be empty" d.partyName)
  unless d.amount.isPositive do
    Cmd.refuse (.validation .invalidAmount "Amount must be positive")
  let id ← Cmd.freshId
  let v : Voucher := ⟨side, id, d.tenant, d.number, d.party, d.partyName, d.amount.currency,
    d.amount.amount, Decimal.zero, d.amount.amount, d.method, "", .draft, d.date, [], "",
    none, none, none, none, none, 1, d.occurredAt, d.occurredAt⟩
  pure (v, ← v.announce (.created v d.amount d.occurredAt))

/-- Confirms a draft voucher. Refused when not a draft, then for a missing user. -/
def confirm (v : Voucher) (user : Uuid) (at_ : Instant) : Cmd (Voucher × Envelope VoucherEvent) := do
  unless v.status.canConfirm do
    Cmd.refuse (.invalidState s!"Cannot confirm voucher in {v.status.tag} status")
  Cmd.check (Validate.present .invalidUser "Confirming user ID is required" user)
  let v := { v with status := .confirmed, confirmedAt := some at_, confirmedBy := some user }.touch at_
  pure (v, ← v.announce (.confirmed v user at_))

/-- Assigns part of a confirmed voucher to a receivable or payable. Refused, in this order,
when the voucher is not confirmed, for a missing entry or entry number, an amount in another
currency or not positive, an amount above what is left, and an entry already allocated to.
The voucher becomes allocated when nothing is left. -/
def allocate (v : Voucher) (target : Uuid) (targetNumber : String) (amount : Money)
    (remark : String) (at_ : Instant) : Cmd (Voucher × Allocation × Envelope VoucherEvent) := do
  let side := v.side
  unless v.status.canAllocate do
    Cmd.refuse (.invalidState s!"Cannot allocate voucher in {v.status.tag} status")
  Cmd.check (Validate.present (side.pick .invalidReceivable .invalidPayable)
    s!"{side.entryLabel} ID cannot be empty" target)
  Cmd.check (Validate.nonEmpty (side.pick .invalidReceivableNumber .invalidPayableNumber)
    s!"{side.entryLabel} number is required" targetNumber)
  let value ← Cmd.check (Validate.positiveAmount amount v.currency "Allocation amount")
  if v.unallocated.lt value then
    Cmd.refuse (.invariant .exceedsUnallocated
      s!"Allocation amount {value} exceeds unallocated amount {v.unallocated}")
  if (v.allocationFor? target).isSome then
    Cmd.refuse (.invariant .alreadyAllocated s!"Already allocated to {side.entryNoun} {targetNumber}")
  let allocation : Allocation := ⟨← Cmd.freshId, v.id, target, targetNumber, value, at_, remark⟩
  let allocated ← Cmd.plus v.allocated value
  let unallocated ← Cmd.minus v.amount allocated
  let full := unallocated.isZero
  let status := if full then VoucherStatus.allocated else v.status
  let v := Voucher.touch
    { v with
      allocations := v.allocations ++ [allocation]
      allocated := allocated
      unallocated := unallocated
      status := status } at_
  pure (v, allocation, ← v.announce (.allocated v allocation amount full at_))

/-- Cancels a voucher nothing was allocated from. Refused, in this order, when it cannot be
cancelled, when something is allocated, and for a missing user or reason. -/
def cancel (v : Voucher) (user : Uuid) (reason : String) (at_ : Instant) :
    Cmd (Voucher × Envelope VoucherEvent) := do
  unless v.status.canCancel do
    Cmd.refuse (.invalidState s!"Cannot cancel voucher in {v.status.tag} status")
  if v.allocated.isPositive then
    Cmd.refuse (.invariant .hasAllocations "Cannot cancel voucher with existing allocations")
  Cmd.check (Validate.present .invalidUser "Cancelling user ID is required" user)
  Cmd.check (Validate.nonEmpty .invalidReason "Cancel reason is required" reason)
  let previous := v.status
  let v := Voucher.touch
    { v with
      status := .cancelled
      cancelledAt := some at_
      cancelledBy := some user
      cancelReason := some reason } at_
  pure (v, ← v.announce (.cancelled v previous user reason at_))

/-- A voucher can be edited until it is allocated or cancelled. -/
def editable (v : Voucher) : Outcome Unit :=
  if v.status.isTerminal then .error (.invalidState "Cannot modify voucher in terminal state")
  else .ok ()

/-- The longest payment reference accepted. -/
def maxReferenceLength : Nat := 100

/-- Sets the bank or check reference of an editable voucher; at most 100 characters. -/
def setReference (v : Voucher) (reference : String) (at_ : Instant) : Outcome Voucher := do
  v.editable
  Validate.maxLength .invalidReference "Payment reference" reference maxReferenceLength
  pure ({ v with reference := reference }.touch at_)

/-- Replaces the remark of an editable voucher. -/
def setRemark (v : Voucher) (remark : String) (at_ : Instant) : Outcome Voucher := do
  v.editable
  pure ({ v with remark := remark }.touch at_)

end Voucher

end Subledger
