import Subledger.Expense.Basic
import Subledger.Wire.Income

/-! # Expense records as JSON

The stored form of an expense record and the form of its events.
-/

namespace Subledger

namespace Wire

/-- The stored form of an expense record, fields in declaration order. -/
def expenseJson (r : Expense) : Json :=
  .obj [("id", Json.ofUuid r.id), ("tenant_id", Json.ofUuid r.tenant),
    ("expense_number", .str r.number), ("category", .str r.category.tag),
    ("amount", Json.ofMoney r.amount), ("description", .str r.description),
    ("incurred_at", Json.ofInstant r.incurredAt), ("status", .str r.status.tag),
    ("payment_status", .str r.payout.tag), ("payment_method", ofOptMethod r.method),
    ("paid_at", Json.ofOptInstant r.paidAt), ("remark", .str r.remark),
    ("attachment_urls", Json.ofList Json.str r.attachments),
    ("submitted_at", Json.ofOptInstant r.submittedAt),
    ("submitted_by", Json.ofOptUuid r.submittedBy),
    ("approved_at", Json.ofOptInstant r.approvedAt),
    ("approved_by", Json.ofOptUuid r.approvedBy), ("approval_remark", .str r.approvalRemark),
    ("rejected_at", Json.ofOptInstant r.rejectedAt),
    ("rejected_by", Json.ofOptUuid r.rejectedBy),
    ("rejection_reason", Json.ofOptString r.rejectionReason),
    ("cancelled_at", Json.ofOptInstant r.cancelledAt),
    ("cancelled_by", Json.ofOptUuid r.cancelledBy),
    ("cancel_reason", Json.ofOptString r.cancelReason), ("version", Json.ofNat r.version),
    ("created_at", Json.ofInstant r.createdAt), ("updated_at", Json.ofInstant r.updatedAt)]

/-- The payload of an expense event, tagged with its name. -/
def expenseEventJson (ev : ExpenseEvent) : Json :=
  let head (r : Expense) : List (String × Json) :=
    [("tenant_id", Json.ofUuid r.tenant), ("expense_id", Json.ofUuid r.id),
      ("expense_number", .str r.number)]
  let body : List (String × Json) := match ev with
    | .created r at_ =>
      head r ++ [("category", .str r.category.tag), ("amount", Json.ofMoney r.amount),
        ("occurred_at", Json.ofInstant at_)]
    | .submitted r by_ at_ =>
      head r ++ [("amount", Json.ofMoney r.amount), ("submitted_by", Json.ofUuid by_),
        ("occurred_at", Json.ofInstant at_)]
    | .approved r by_ at_ =>
      head r ++ [("category", .str r.category.tag), ("amount", Json.ofMoney r.amount),
        ("approved_by", Json.ofUuid by_), ("occurred_at", Json.ofInstant at_)]
    | .rejected r by_ reason at_ =>
      head r ++ [("rejected_by", Json.ofUuid by_), ("reason", .str reason),
        ("occurred_at", Json.ofInstant at_)]
    | .cancelled r by_ reason at_ =>
      head r ++ [("cancelled_by", Json.ofUuid by_), ("reason", .str reason),
        ("occurred_at", Json.ofInstant at_)]
    | .paid r method at_ =>
      head r ++ [("amount", Json.ofMoney r.amount), ("payment_method", .str method.tag),
        ("occurred_at", Json.ofInstant at_)]
  .obj [(ev.name, .obj body)]

/-- How an expense record is stored. -/
def expenseShape : Shape :=
  .record "ExpenseRecord"
    (.cons "id" uuid .required
    (.cons "tenant_id" uuid .required
    (.cons "expense_number" Shape.text .required
    (.cons "category" (tagged ExpenseCategory.tags none) .required
    (.cons "amount" moneyShape .required
    (.cons "description" Shape.text .required
    (.cons "incurred_at" instant .required
    (.cons "status" (tagged ExpenseStatus.tags none) .required
    (.cons "payment_status" (tagged PayoutStatus.tags (some .unpaid)) .defaulted
    (.cons "payment_method" (.option (tagged PaymentMethod.tags none)) .optional
    (.cons "paid_at" (.option instant) .optional
    (.cons "remark" Shape.text .defaulted
    (.cons "attachment_urls" (.list Shape.text) .defaulted
    (.cons "submitted_at" (.option instant) .optional
    (.cons "submitted_by" (.option uuid) .optional
    (.cons "approved_at" (.option instant) .optional
    (.cons "approved_by" (.option uuid) .optional
    (.cons "approval_remark" Shape.text .defaulted
    (.cons "rejected_at" (.option instant) .optional
    (.cons "rejected_by" (.option uuid) .optional
    (.cons "rejection_reason" (.option Shape.text) .optional
    (.cons "cancelled_at" (.option instant) .optional
    (.cons "cancelled_by" (.option uuid) .optional
    (.cons "cancel_reason" (.option Shape.text) .optional
    (.cons "version" Shape.count .required
    (.cons "created_at" instant .required
    (.cons "updated_at" instant .required .nil)))))))))))))))))))))))))))

/-- The expense record a decoded record holds. -/
def expenseOf (v : expenseShape.Denote) : Expense :=
  let (id, tenant, number, category, amount, description, incurredAt, status, payout, method,
    paidAt, remark, attachments, submittedAt, submittedBy, approvedAt, approvedBy, approvalRemark,
    rejectedAt, rejectedBy, rejectionReason, cancelledAt, cancelledBy, cancelReason, version,
    createdAt, updatedAt, ()) := v
  ⟨id, tenant, number, category, moneyOf amount, description, incurredAt, status, payout, method,
    paidAt, remark, attachments, submittedAt, submittedBy, approvedAt, approvedBy,
    approvalRemark, rejectedAt, rejectedBy, rejectionReason, cancelledAt, cancelledBy,
    cancelReason, version, createdAt, updatedAt⟩

end Wire

end Subledger
