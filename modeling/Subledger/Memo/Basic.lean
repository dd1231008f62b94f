import Subledger.Memo.Status
import Subledger.Validate
import Subledger.Event
import Subledger.Side

/-! # Credit and debit memos

A memo is raised when goods come back: a credit memo when a customer returns a sale (sales
side), a debit memo when goods go back to a supplier (purchases side). While pending it
collects the returned lines; its total is then offset against receivables or payables by
applications, or settled in one refund of what remains. A memo nothing was applied from can be
voided. After an application the remaining amount is recomputed as the total less what was
applied; a refund counts the whole total as applied. Every successful command raises the
version by one and stamps the time.
-/

namespace Subledger

/-- A returned product line on a memo; its amount is the quantity times the unit price. -/
structure MemoItem where
  id : Uuid
  memo : Uuid
  /-- The return document the line comes from. -/
  returnDoc : Uuid
  returnItem : Uuid
  product : Uuid
  productName : String
  productCode : String
  unit : String
  quantity : Decimal
  unitPrice : Decimal
  amount : Decimal
  reason : String
  createdAt : Instant

/-- The request to add a returned line to a memo. -/
structure MemoLine where
  returnDoc : Uuid
  returnItem : Uuid
  product : Uuid
  productName : String
  productCode : String
  unit : String
  quantity : Decimal
  unitPrice : Money
  reason : String

/-- The part of a memo offset against one receivable or payable. -/
structure MemoApplication where
  id : Uuid
  memo : Uuid
  target : Uuid
  amount : Decimal
  appliedAt : Instant
  remark : String

/-- A credit memo (sales side) or debit memo (purchases side). -/
structure Memo where
  side : Side
  id : Uuid
  tenant : Uuid
  number : String
  returnDoc : Uuid
  returnNumber : String
  order : Uuid
  orderNumber : String
  party : Uuid
  partyName : String
  /-- The receivable or payable the memo offsets, once linked. -/
  linkedEntry : Option Uuid
  items : List MemoItem
  currency : Currency
  total : Decimal
  applied : Decimal
  remaining : Decimal
  status : MemoStatus
  applications : List MemoApplication
  reason : String
  remark : String
  appliedAt : Option Instant
  voidedAt : Option Instant
  voidReason : Option String
  refundedAt : Option Instant
  refundMethod : Option String
  version : Nat
  createdAt : Instant
  updatedAt : Instant

/-- The request to raise a memo. -/
structure MemoDraft where
  tenant : Uuid
  number : String
  returnDoc : Uuid
  returnNumber : String
  order : Uuid
  orderNumber : String
  party : Uuid
  partyName : String
  total : Money
  reason : String
  occurredAt : Instant

/-- What happened to a memo; each carries the memo as it is after the change. -/
inductive MemoEvent where
  | created (memo : Memo) (total : Money) (at_ : Instant)
  | partlyApplied (memo : Memo) (application : MemoApplication) (amount : Money) (at_ : Instant)
  | applied (memo : Memo) (application : MemoApplication) (at_ : Instant)
  | voided (memo : Memo) (reason : String) (at_ : Instant)
  | refunded (memo : Memo) (amount : Money) (method : String) (at_ : Instant)

namespace MemoEvent

/-- The name of the event; a debit memo's refund is received rather than paid. -/
def name (side : Side) : MemoEvent → String
  | .created .. => "Created"
  | .partlyApplied .. => "PartiallyApplied"
  | .applied .. => "Applied"
  | .voided .. => "Voided"
  | .refunded .. => side.pick "Refunded" "RefundReceived"

/-- The last part of the event type. -/
def kind (side : Side) : MemoEvent → String
  | .created .. => "created"
  | .partlyApplied .. => "partially_applied"
  | .applied .. => "applied"
  | .voided .. => "voided"
  | .refunded .. => side.pick "refunded" "refund_received"

/-- When the event happened. -/
def occurredAt : MemoEvent → Instant
  | .created _ _ at_ | .partlyApplied _ _ _ at_ | .applied _ _ at_ | .voided _ _ at_
  | .refunded _ _ _ at_ => at_

end MemoEvent

namespace Memo

/-- The noun of a memo of this side: `credit_memo` or `debit_memo`. -/
def noun (side : Side) : String := s!"{side.memoKind}_memo"

/-- The type of document, for envelopes. -/
def aggregateType (side : Side) : String := s!"finance.{noun side}"

/-- Seals an event of this memo at its current version. -/
def announce (m : Memo) (event : MemoEvent) : Cmd (Envelope MemoEvent) :=
  Envelope.wrap m.tenant m.id (aggregateType m.side) m.version
    s!"finance.{noun m.side}.{event.kind m.side}" event.occurredAt event

/-- Raises the version by one (wrapping at `2 ^ 64`) and stamps the time of the change. -/
def touch (m : Memo) (at_ : Instant) : Memo :=
  { m with version := (m.version + 1) % Nat.pow 2 64, updatedAt := at_ }

/-- The total as money. -/
def totalMoney (m : Memo) : Money := ⟨m.total, m.currency⟩

/-- The applied part as money. -/
def appliedMoney (m : Memo) : Money := ⟨m.applied, m.currency⟩

/-- The remaining part as money. -/
def remainingMoney (m : Memo) : Money := ⟨m.remaining, m.currency⟩

/-- The sum of the line amounts, which need not equal the total; refused when it leaves the
decimal range. -/
def itemsTotal (m : Memo) : Outcome Money :=
  match m.items.foldlM (fun acc (i : MemoItem) => acc.add? i.amount) Decimal.zero with
  | some t => .ok ⟨t, m.currency⟩
  | none => .error (.validation .invalidAmount "items total overflow")

/-- The applied share of the total in percent, two places. -/
def appliedPercentage (m : Memo) : Outcome Decimal := percentage m.applied m.total

/-- Raises a pending memo. Refused, in this order, for a bad document number, a missing
return, order, party or party name, and a total that is not positive. -/
def create (side : Side) (d : MemoDraft) : Cmd (Memo × Envelope MemoEvent) := do
  Cmd.check (Validate.documentNumber .invalidMemoNumber "Memo" d.number)
  Cmd.check (Validate.present (side.pick .invalidSalesReturn .invalidPurchaseReturn)
    (side.pick "Sales return ID cannot be empty" "Purchase return ID cannot be empty") d.returnDoc)
  Cmd.check (Validate.present (side.pick .invalidSalesOrder .invalidPurchaseOrder)
    (side.pick "Sales order ID cannot be empty" "Purchase order ID cannot be empty") d.order)
  Cmd.check (Validate.present (side.pick .invalidCustomer .invalidSupplier)
    s!"{side.partyLabel} ID cannot be empty" d.party)
  Cmd.check (Validate.nonEmpty (side.pick .invalidCustomerName .invalidSupplierName)
    s!"{side.partyLabel} name cannot be empty" d.partyName)
  unless d.total.isPositive do
    Cmd.refuse (.validation .invalidAmount s!"Total {side.memoKind} must be positive")
  let id ← Cmd.freshId
  let m : Memo := ⟨side, id, d.tenant, d.number, d.returnDoc, d.returnNumber, d.order,
    d.orderNumber, d.party, d.partyName, none, [], d.total.currency, d.total.amount, Decimal.zero,
    d.total.amount, .pending, [], d.reason, "", none, none, none, none, none, 1, d.occurredAt,
    d.occurredAt⟩
  pure (m, ← m.announce (.created m d.total d.occurredAt))

/-- Adds a returned line to a pending memo. Refused, in this order, when the memo is not
pending, for a quantity that is not positive, a unit price in another currency or below
zero, a line amount out of range, and a sum of lines out of range. -/
def addItem (m : Memo) (line : MemoLine) (at_ : Instant) : Cmd (Memo × MemoItem) := do
  let side := m.side
  let priceLabel := side.pick "Unit price" "Unit cost"
  unless m.status == .pending do
    Cmd.refuse (.invalidState s!"Cannot add items to a non-pending {side.memoKind} memo")
  unless line.quantity.isPositive do
    Cmd.refuse (.validation .invalidQuantity "Return quantity must be positive")
  unless line.unitPrice.currency == m.currency do
    Cmd.refuse (.validation .currencyMismatch s!"{priceLabel} must be in {m.currency.code}")
  if line.unitPrice.isNegative then
    Cmd.refuse (.validation .invalidAmount s!"{priceLabel} cannot be negative")
  let amount ← match line.quantity.mul? line.unitPrice.amount with
    | some a => pure a
    | none => Cmd.refuse (.validation .invalidAmount s!"{side.memoKind} amount overflow")
  let sum ← Cmd.check m.itemsTotal
  if (sum.amount.add? amount).isNone then
    Cmd.refuse (.validation .invalidAmount "items total overflow")
  let item : MemoItem := ⟨← Cmd.freshId, m.id, line.returnDoc, line.returnItem, line.product,
    line.productName, line.productCode, line.unit, line.quantity, line.unitPrice.amount, amount,
    line.reason, at_⟩
  pure ({ m with items := m.items ++ [item] }.touch at_, item)

/-- Links the receivable or payable the memo offsets; refused for a missing one. -/
def linkEntry (m : Memo) (target : Uuid) (at_ : Instant) : Outcome Memo := do
  Validate.present (m.side.pick .invalidReceivable .invalidPayable)
    s!"{m.side.entryLabel} ID cannot be empty" target
  pure ({ m with linkedEntry := some target }.touch at_)

/-- Offsets part of the memo against a receivable or payable. Refused, in this order, when the
memo cannot be applied, for a missing entry, an amount in another currency or not positive,
and an amount above what remains. The memo is applied when nothing remains, else partial. -/
def apply (m : Memo) (target : Uuid) (amount : Money) (remark : String) (at_ : Instant) :
    Cmd (Memo × Envelope MemoEvent) := do
  let side := m.side
  unless m.status.canApply do
    Cmd.refuse (.invalidState s!"Cannot apply {side.memoKind} memo in {m.status.tag} status")
  Cmd.check (Validate.present (side.pick .invalidReceivable .invalidPayable)
    s!"{side.entryLabel} ID cannot be empty" target)
  let value ← Cmd.check (Validate.positiveAmount amount m.currency "Application amount")
  if m.remaining.lt value then
    Cmd.refuse (.invariant .exceedsRemaining
      s!"Application amount {value} exceeds remaining {side.memoKind} {m.remaining}")
  let application : MemoApplication := ⟨← Cmd.freshId, m.id, target, value, at_, remark⟩
  let applied ← Cmd.plus m.applied value
  let remaining ← Cmd.minus m.total applied
  let m := Memo.touch
    { m with
      applications := m.applications ++ [application]
      applied := applied
      remaining := remaining } at_
  if remaining.isZero then
    let m := { m with status := .applied, appliedAt := some at_ }
    pure (m, ← m.announce (.applied m application at_))
  else
    let m := { m with status := .partlyApplied }
    pure (m, ← m.announce (.partlyApplied m application amount at_))

/-- Voids a memo nothing was applied from; what remains drops to zero. Refused, in this
order, when the memo is settled, when something was applied, and for a missing reason. -/
def void (m : Memo) (reason : String) (at_ : Instant) : Cmd (Memo × Envelope MemoEvent) := do
  let side := m.side
  if m.status.isTerminal then
    Cmd.refuse (.invalidState s!"Cannot void {side.memoKind} memo in {m.status.tag} status")
  if m.applied.isPositive then
    Cmd.refuse (.invariant .hasApplications
      s!"Cannot void {side.memoKind} memo with existing applications")
  Cmd.check (Validate.nonEmpty .invalidReason "Void reason is required" reason)
  let m := Memo.touch
    { m with
      status := .voided
      voidedAt := some at_
      voidReason := some reason
      remaining := Decimal.zero } at_
  pure (m, ← m.announce (.voided m reason at_))

/-- Settles what remains by a refund (paid to the customer, or received from the supplier);
the whole total then counts as applied. Refused, in this order, when the memo cannot be
applied, when nothing remains, and for a missing method. -/
def refund (m : Memo) (method : String) (at_ : Instant) : Cmd (Memo × Envelope MemoEvent) := do
  let side := m.side
  unless m.status.canApply do
    Cmd.refuse (.invalidState (side.pick s!"Cannot refund credit memo in {m.status.tag} status"
      s!"Cannot receive refund for debit memo in {m.status.tag} status"))
  unless m.remaining.isPositive do
    Cmd.refuse (.invariant .noRemaining s!"No remaining {side.memoKind} to refund")
  Cmd.check (Validate.nonEmpty .invalidMethod "Refund method is required" method)
  let amount := m.remainingMoney
  let m := Memo.touch
    { m with
      status := .refunded
      refundedAt := some at_
      refundMethod := some method
      applied := m.total
      remaining := Decimal.zero } at_
  pure (m, ← m.announce (.refunded m amount method at_))

/-- Replaces the remark; always allowed. -/
def setRemark (m : Memo) (remark : String) (at_ : Instant) : Memo :=
  { m with remark := remark }.touch at_

end Memo

end Subledger
