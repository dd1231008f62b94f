import Subledger.Income.Basic
import Subledger.Wire.Ledger

/-! # Income records as JSON

The stored form of an income record and the form of its events.
-/

namespace Subledger

namespace Wire

/-- A payment method that may be absent. -/
def ofOptMethod (m : Option PaymentMethod) : Json :=
  match m with
  | some m => .str m.tag
  | none => .null

/-- The stored form of an income record, fields in declaration order. -/
def incomeJson (r : Income) : Json :=
  .obj [("id", Json.ofUuid r.id), ("tenant_id", Json.ofUuid r.tenant),
    ("income_number", .str r.number), ("category", .str r.category.tag),
    ("amount", Json.ofMoney r.amount), ("description", .str r.description),
    ("received_at", Json.ofInstant r.receivedAt), ("status", .str r.status.tag),
    ("receipt_status", .str r.receipt.tag), ("payment_method", ofOptMethod r.method),
    ("actual_received_at", Json.ofOptInstant r.actualReceivedAt), ("remark", .str r.remark),
    ("attachment_urls", Json.ofList Json.str r.attachments),
    ("confirmed_at", Json.ofOptInstant r.confirmedAt),
    ("confirmed_by", Json.ofOptUuid r.confirmedBy),
    ("cancelled_at", Json.ofOptInstant r.cancelledAt),
    ("cancelled_by", Json.ofOptUuid r.cancelledBy),
    ("cancel_reason", Json.ofOptString r.cancelReason), ("version", Json.ofNat r.version),
    ("created_at", Json.ofInstant r.createdAt), ("updated_at", Json.ofInstant r.updatedAt)]

/-- The payload of an income event, tagged with its name. -/
def incomeEventJson (ev : IncomeEvent) : Json :=
  let head (r : Income) : List (String × Json) :=
    [("tenant_id", Json.ofUuid r.tenant), ("income_id", Json.ofUuid r.id),
      ("income_number", .str r.number)]
  let body : List (String × Json) := match ev with
    | .created r at_ =>
      head r ++ [("category", .str r.category.tag), ("amount", Json.ofMoney r.amount),
        ("occurred_at", Json.ofInstant at_)]
    | .confirmed r by_ at_ =>
      head r ++ [("amount", Json.ofMoney r.amount), ("confirmed_by", Json.ofUuid by_),
        ("occurred_at", Json.ofInstant at_)]
    | .cancelled r by_ reason at_ =>
      head r ++ [("cancelled_by", Json.ofUuid by_), ("reason", .str reason),
        ("occurred_at", Json.ofInstant at_)]
    | .received r method at_ =>
      head r ++ [("amount", Json.ofMoney r.amount), ("payment_method", .str method.tag),
        ("occurred_at", Json.ofInstant at_)]
  .obj [(ev.name, .obj body)]

/-- How an income record is stored. -/
def incomeShape : Shape :=
  .record "OtherIncomeRecord"
    (.cons "id" uuid .required
    (.cons "tenant_id" uuid .required
    (.cons "income_number" Shape.text .required
    (.cons "category" (tagged IncomeCategory.tags none) .required
    (.cons "amount" moneyShape .required
    (.cons "description" Shape.text .required
    (.cons "received_at" instant .required
    (.cons "status" (tagged IncomeStatus.tags none) .required
    (.cons "receipt_status" (tagged ReceiptStatus.tags (some .pending)) .defaulted
    (.cons "payment_method" (.option (tagged PaymentMethod.tags none)) .optional
    (.cons "actual_received_at" (.option instant) .optional
    (.cons "remark" Shape.text .defaulted
    (.cons "attachment_urls" (.list Shape.text) .defaulted
    (.cons "confirmed_at" (.option instant) .optional
    (.cons "confirmed_by" (.option uuid) .optional
    (.cons "cancelled_at" (.option instant) .optional
    (.cons "cancelled_by" (.option uuid) .optional
    (.cons "cancel_reason" (.option Shape.text) .optional
    (.cons "version" Shape.count .required
    (.cons "created_at" instant .required
    (.cons "updated_at" instant .required .nil)))))))))))))))))))))

/-- The income record a decoded record holds. -/
def incomeOf (v : incomeShape.Denote) : Income :=
  let (id, tenant, number, category, amount, description, receivedAt, status, receipt, method,
    actualReceivedAt, remark, attachments, confirmedAt, confirmedBy, cancelledAt, cancelledBy,
    cancelReason, version, createdAt, updatedAt, ()) := v
  ⟨id, tenant, number, category, moneyOf amount, description, receivedAt, status, receipt,
    method, actualReceivedAt, remark, attachments, confirmedAt, confirmedBy, cancelledAt,
    cancelledBy, cancelReason, version, createdAt, updatedAt⟩

end Wire

end Subledger
