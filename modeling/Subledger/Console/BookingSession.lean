import Subledger.Console.Session
import Subledger.Wire.Expense

/-! # Income and expense sessions

The request fields of the factories and of each step, and the answers they give: events in
envelopes, the query facts and every accessor. Both kinds of record share the request names
`number`, `category`, `amount`, `description` and `date`.
-/

namespace Subledger

namespace Console

/-- Every accessor of an income record. -/
def incomeGetters (r : Income) : Except Failure Json :=
  .ok (.obj [
    ("common", commonGetters r.id r.tenant Income.aggregateType r.version),
    ("id_typed", Json.ofUuid r.id), ("number", .str r.number),
    ("category", .str r.category.tag), ("amount", .str r.amount.render),
    ("description", .str r.description), ("date", Json.ofInstant r.receivedAt),
    ("status", .str r.status.tag), ("receipt_status", .str r.receipt.tag),
    ("payment_method", Wire.ofOptMethod r.method),
    ("actual_received_at", Json.ofOptInstant r.actualReceivedAt), ("remark", .str r.remark),
    ("attachment_urls", Json.ofList Json.str r.attachments),
    ("confirmed_by", Json.ofOptUuid r.confirmedBy),
    ("cancel_reason", Json.ofOptString r.cancelReason),
    ("is_draft", .bool (r.status == .draft)), ("is_confirmed", .bool (r.status == .confirmed)),
    ("is_cancelled", .bool (r.status == .cancelled)),
    ("is_received", .bool (r.receipt == .received))])

/-- The facts an income query step reports. -/
def incomeQuery (r : Income) : Json :=
  .obj [("status", .str r.status.tag), ("is_terminal", .bool r.status.isTerminal),
    ("can_confirm", .bool r.status.canConfirm), ("can_cancel", .bool r.status.canCancel),
    ("is_draft", .bool (r.status == .draft)), ("is_confirmed", .bool (r.status == .confirmed)),
    ("is_cancelled", .bool (r.status == .cancelled)),
    ("is_received", .bool (r.receipt == .received)), ("version", Json.ofNat r.version)]

/-- Every accessor of an expense record. -/
def expenseGetters (r : Expense) : Except Failure Json :=
  .ok (.obj [
    ("common", commonGetters r.id r.tenant Expense.aggregateType r.version),
    ("id_typed", Json.ofUuid r.id), ("number", .str r.number),
    ("category", .str r.category.tag), ("amount", .str r.amount.render),
    ("description", .str r.description), ("date", Json.ofInstant r.incurredAt),
    ("status", .str r.status.tag), ("payment_status", .str r.payout.tag),
    ("payment_method", Wire.ofOptMethod r.method), ("paid_at", Json.ofOptInstant r.paidAt),
    ("remark", .str r.remark), ("attachment_urls", Json.ofList Json.str r.attachments),
    ("submitted_by", Json.ofOptUuid r.submittedBy),
    ("approved_by", Json.ofOptUuid r.approvedBy), ("approval_remark", .str r.approvalRemark),
    ("rejection_reason", Json.ofOptString r.rejectionReason),
    ("cancel_reason", Json.ofOptString r.cancelReason),
    ("is_draft", .bool (r.status == .draft)), ("is_pending", .bool (r.status == .pending)),
    ("is_approved", .bool (r.status == .approved)),
    ("is_rejected", .bool (r.status == .rejected)),
    ("is_cancelled", .bool (r.status == .cancelled)), ("is_paid", .bool (r.payout == .paid))])

/-- The facts an expense query step reports. -/
def expenseQuery (r : Expense) : Json :=
  .obj [("status", .str r.status.tag), ("is_terminal", .bool r.status.isTerminal),
    ("can_submit", .bool r.status.canSubmit), ("can_approve", .bool r.status.canApprove),
    ("can_cancel", .bool r.status.canCancel),
    ("is_draft", .bool (r.status == .draft)), ("is_pending", .bool (r.status == .pending)),
    ("is_approved", .bool (r.status == .approved)),
    ("is_rejected", .bool (r.status == .rejected)),
    ("is_cancelled", .bool (r.status == .cancelled)), ("is_paid", .bool (r.payout == .paid)),
    ("version", Json.ofNat r.version)]

/-- The details a booking is created or edited with: category (read by `category`), amount,
description and date, in this order. -/
def bookingDetails (category : String → Outcome κ) (j : Json) :
    Ask (κ × Money × String × Instant) := do
  let c ← Ask.outcome (category (← Ask.text j "category"))
  let amount ← Ask.money j "amount"
  let description ← Ask.text j "description"
  let date ← Ask.instant j "date"
  pure (c, amount, description, date)

/-- Reads a payment method field. -/
def methodField (j : Json) : Ask PaymentMethod := do
  Ask.outcome (PaymentMethod.parse (← Ask.text j "method"))

/-- The steps of an income session. -/
def incomeStep (r : Income) (name : String) (s : Json) : Option (Ask (Cmd (Json × Income))) :=
  match name with
  | "update" => some (updateStep do
    let (category, amount, description, date) ← bookingDetails IncomeCategory.parse s
    let at_ ← Ask.instant s "at"
    pure (r.update category amount description date at_))
  | "confirm" => some do
    let user ← Ask.uuid .user s "user_id"
    let at_ ← Ask.instant s "at"
    pure do
      let (r', env) ← r.confirm user at_
      pure (.obj [("event", Wire.envelopeJson Wire.incomeEventJson env)], r')
  | "cancel" => some do
    let user ← Ask.uuid .user s "user_id"
    let reason ← Ask.text s "reason"
    let at_ ← Ask.instant s "at"
    pure do
      let (r', env) ← r.cancel user reason at_
      pure (.obj [("event", Wire.envelopeJson Wire.incomeEventJson env)], r')
  | "mark_received" => some do
    let method ← methodField s
    let at_ ← Ask.instant s "at"
    pure do
      let (r', env) ← r.markReceived method at_
      pure (.obj [("event", Wire.envelopeJson Wire.incomeEventJson env)], r')
  | "set_remark" => some (updateStep do
    let remark ← Ask.text s "remark"
    let at_ ← Ask.instant s "at"
    pure (.ok (r.setRemark remark at_)))
  | "set_attachment_urls" => some (updateStep do
    let urls ← Ask.texts s "urls"
    let at_ ← Ask.instant s "at"
    pure (.ok (r.setAttachments urls at_)))
  | "query" => some (queryStep r (pure (.ok (incomeQuery r))))
  | _ => none

/-- Income records as session documents. -/
def incomeDocument : Document Income where
  store := Wire.incomeJson
  load j := (Wire.incomeShape.decodeDocument j).map Wire.incomeOf
  create c := do
    let tenant ← Ask.uuid .tenant c "tenant_id"
    let number ← Ask.text c "number"
    let (category, amount, description, date) ← bookingDetails IncomeCategory.parse c
    let occurredAt ← Ask.instant c "occurred_at"
    pure do
      let (r, env) ← Income.create ⟨tenant, number, category, amount, description, date,
        occurredAt⟩
      pure (.obj [("event", Wire.envelopeJson Wire.incomeEventJson env)], r)
  version r := r.version
  getters := incomeGetters
  step := incomeStep

/-- The steps of an expense session. -/
def expenseStep (r : Expense) (name : String) (s : Json) : Option (Ask (Cmd (Json × Expense))) :=
  let answer (x : Cmd (Expense × Envelope ExpenseEvent)) : Cmd (Json × Expense) := do
    let (r', env) ← x
    pure (.obj [("event", Wire.envelopeJson Wire.expenseEventJson env)], r')
  match name with
  | "update" => some (updateStep do
    let (category, amount, description, date) ← bookingDetails ExpenseCategory.parse s
    let at_ ← Ask.instant s "at"
    pure (r.update category amount description date at_))
  | "submit" => some do
    let user ← Ask.uuid .user s "user_id"
    let at_ ← Ask.instant s "at"
    pure (answer (r.submit user at_))
  | "approve" => some do
    let user ← Ask.uuid .user s "user_id"
    let remark ← Ask.textOr s "remark"
    let at_ ← Ask.instant s "at"
    pure (answer (r.approve user remark at_))
  | "reject" => some do
    let user ← Ask.uuid .user s "user_id"
    let reason ← Ask.text s "reason"
    let at_ ← Ask.instant s "at"
    pure (answer (r.reject user reason at_))
  | "cancel" => some do
    let user ← Ask.uuid .user s "user_id"
    let reason ← Ask.text s "reason"
    let at_ ← Ask.instant s "at"
    pure (answer (r.cancel user reason at_))
  | "mark_paid" => some do
    let method ← methodField s
    let at_ ← Ask.instant s "at"
    pure (answer (r.markPaid method at_))
  | "set_remark" => some (updateStep do
    let remark ← Ask.text s "remark"
    let at_ ← Ask.instant s "at"
    pure (.ok (r.setRemark remark at_)))
  | "set_attachment_urls" => some (updateStep do
    let urls ← Ask.texts s "urls"
    let at_ ← Ask.instant s "at"
    pure (.ok (r.setAttachments urls at_)))
  | "query" => some (queryStep r (pure (.ok (expenseQuery r))))
  | _ => none

/-- Expense records as session documents. -/
def expenseDocument : Document Expense where
  store := Wire.expenseJson
  load j := (Wire.expenseShape.decodeDocument j).map Wire.expenseOf
  create c := do
    let tenant ← Ask.uuid .tenant c "tenant_id"
    let number ← Ask.text c "number"
    let (category, amount, description, date) ← bookingDetails ExpenseCategory.parse c
    let occurredAt ← Ask.instant c "occurred_at"
    pure do
      let (r, env) ← Expense.create ⟨tenant, number, category, amount, description, date,
        occurredAt⟩
      pure (.obj [("event", Wire.envelopeJson Wire.expenseEventJson env)], r)
  version r := r.version
  getters := expenseGetters
  step := expenseStep

end Console

end Subledger
