import Subledger.Memo.Basic
import Subledger.Wire.Ledger

/-! # Memos as JSON

The stored form of credit and debit memos, of their lines and applications, and the form of
their events. Field names follow the side: `credit_memo_id`, `sales_return_id`,
`customer_id`, `receivable_id`, `total_credit`, `unit_price` and `refunded_at` on the sales
side; `debit_memo_id`, `purchase_return_id`, `supplier_id`, `payable_id`, `total_debit`,
`unit_cost` and `refund_received_at` on the purchases side.
-/

namespace Subledger

namespace Wire

/-- The name of a field naming a memo of this side. -/
def memoKey (side : Side) : String := s!"{Memo.noun side}_id"

/-- The name of a field about the source documents: `sales_return_id` and the like. -/
def sourceKey (side : Side) (suffix : String) : String := s!"{side.sourcePrefix}_{suffix}"

/-- The name of a memo's total field. -/
def memoTotalKey (side : Side) : String := s!"total_{side.memoKind}"

/-- The stored form of a memo line. -/
def memoItemJson (side : Side) (i : MemoItem) : Json :=
  .obj [("id", Json.ofUuid i.id), (memoKey side, Json.ofUuid i.memo),
    (sourceKey side "return_id", Json.ofUuid i.returnDoc),
    ("return_item_id", Json.ofUuid i.returnItem), ("product_id", Json.ofUuid i.product),
    ("product_name", .str i.productName), ("product_code", .str i.productCode),
    ("unit", .str i.unit), ("return_quantity", Json.ofDecimal i.quantity),
    (side.pick "unit_price" "unit_cost", Json.ofDecimal i.unitPrice),
    (s!"{side.memoKind}_amount", Json.ofDecimal i.amount), ("reason", .str i.reason),
    ("created_at", Json.ofInstant i.createdAt)]

/-- The stored form of a memo application. -/
def memoApplicationJson (side : Side) (a : MemoApplication) : Json :=
  .obj [("id", Json.ofUuid a.id), (memoKey side, Json.ofUuid a.memo),
    (entryKey side "id", Json.ofUuid a.target), ("amount", Json.ofDecimal a.amount),
    ("applied_at", Json.ofInstant a.appliedAt), ("remark", .str a.remark)]

/-- The name of the field holding when a memo was refunded. -/
def refundedKey (side : Side) : String := side.pick "refunded_at" "refund_received_at"

/-- The stored form of a memo, fields in declaration order. -/
def memoJson (m : Memo) : Json :=
  let side := m.side
  .obj [("id", Json.ofUuid m.id), ("tenant_id", Json.ofUuid m.tenant),
    ("memo_number", .str m.number), (sourceKey side "return_id", Json.ofUuid m.returnDoc),
    (sourceKey side "return_number", .str m.returnNumber),
    (sourceKey side "order_id", Json.ofUuid m.order),
    (sourceKey side "order_number", .str m.orderNumber),
    (partyKey side "id", Json.ofUuid m.party), (partyKey side "name", .str m.partyName),
    (s!"original_{side.entryNoun}_id", Json.ofOptUuid m.linkedEntry),
    ("items", Json.ofList (memoItemJson side) m.items), ("currency", .str m.currency.code),
    (memoTotalKey side, Json.ofDecimal m.total), ("applied_amount", Json.ofDecimal m.applied),
    ("remaining_amount", Json.ofDecimal m.remaining), ("status", .str m.status.tag),
    ("applications", Json.ofList (memoApplicationJson side) m.applications),
    ("reason", .str m.reason), ("remark", .str m.remark),
    ("applied_at", Json.ofOptInstant m.appliedAt), ("voided_at", Json.ofOptInstant m.voidedAt),
    ("void_reason", Json.ofOptString m.voidReason),
    (refundedKey side, Json.ofOptInstant m.refundedAt),
    ("refund_method", Json.ofOptString m.refundMethod), ("version", Json.ofNat m.version),
    ("created_at", Json.ofInstant m.createdAt), ("updated_at", Json.ofInstant m.updatedAt)]

/-- The fields every event of a memo starts with. -/
def memoEventHead (m : Memo) : List (String × Json) :=
  [("tenant_id", Json.ofUuid m.tenant), (memoKey m.side, Json.ofUuid m.id),
    ("memo_number", .str m.number)]

/-- The payload of a memo event, tagged with its name. -/
def memoEventJson (side : Side) (ev : MemoEvent) : Json :=
  let body : List (String × Json) := match ev with
    | .created m total at_ =>
      memoEventHead m ++
        [(sourceKey side "return_id", Json.ofUuid m.returnDoc),
          (sourceKey side "order_id", Json.ofUuid m.order),
          (partyKey side "id", Json.ofUuid m.party), (partyKey side "name", .str m.partyName),
          (memoTotalKey side, Json.ofMoney total), ("reason", .str m.reason),
          ("occurred_at", Json.ofInstant at_)]
    | .partlyApplied m a amount at_ =>
      memoEventHead m ++
        [(partyKey side "id", Json.ofUuid m.party), ("application_id", Json.ofUuid a.id),
          (entryKey side "id", Json.ofUuid a.target), ("application_amount", Json.ofMoney amount),
          ("applied_amount", Json.ofMoney m.appliedMoney),
          ("remaining_amount", Json.ofMoney m.remainingMoney),
          ("occurred_at", Json.ofInstant at_)]
    | .applied m a at_ =>
      memoEventHead m ++
        [(partyKey side "id", Json.ofUuid m.party), ("application_id", Json.ofUuid a.id),
          (entryKey side "id", Json.ofUuid a.target),
          (memoTotalKey side, Json.ofMoney m.totalMoney), ("occurred_at", Json.ofInstant at_)]
    | .voided m reason at_ =>
      memoEventHead m ++
        [(partyKey side "id", Json.ofUuid m.party), (memoTotalKey side, Json.ofMoney m.totalMoney),
          ("reason", .str reason), ("occurred_at", Json.ofInstant at_)]
    | .refunded m amount method at_ =>
      memoEventHead m ++
        [(partyKey side "id", Json.ofUuid m.party), ("refund_amount", Json.ofMoney amount),
          ("refund_method", .str method), ("occurred_at", Json.ofInstant at_)]
  .obj [(ev.name side, .obj body)]

/-- How a memo line is stored. -/
def memoItemShape (side : Side) : Shape :=
  .record (side.pick "CreditMemoItem" "DebitMemoItem")
    (.cons "id" uuid .required
    (.cons (memoKey side) uuid .required
    (.cons (sourceKey side "return_id") uuid .required
    (.cons "return_item_id" uuid .required
    (.cons "product_id" uuid .required
    (.cons "product_name" Shape.text .required
    (.cons "product_code" Shape.text .required
    (.cons "unit" Shape.text .required
    (.cons "return_quantity" decimal .required
    (.cons (side.pick "unit_price" "unit_cost") decimal .required
    (.cons s!"{side.memoKind}_amount" decimal .required
    (.cons "reason" Shape.text .required
    (.cons "created_at" instant .required .nil)))))))))))))

/-- The memo line a decoded line holds. -/
def memoItemOf (side : Side) (v : (memoItemShape side).Denote) : MemoItem :=
  let (id, memo, returnDoc, returnItem, product, productName, productCode, unit, quantity,
    unitPrice, amount, reason, createdAt, ()) := v
  ⟨id, memo, returnDoc, returnItem, product, productName, productCode, unit, quantity, unitPrice,
    amount, reason, createdAt⟩

/-- How a memo application is stored. -/
def memoApplicationShape (side : Side) : Shape :=
  .record (side.pick "CreditMemoApplication" "DebitMemoApplication")
    (.cons "id" uuid .required
    (.cons (memoKey side) uuid .required
    (.cons (entryKey side "id") uuid .required
    (.cons "amount" decimal .required
    (.cons "applied_at" instant .required
    (.cons "remark" Shape.text .defaulted .nil))))))

/-- The application a decoded application holds. -/
def memoApplicationOf (side : Side) (v : (memoApplicationShape side).Denote) : MemoApplication :=
  let (id, memo, target, amount, appliedAt, remark, ()) := v
  ⟨id, memo, target, amount, appliedAt, remark⟩

/-- How a memo is stored. -/
def memoShape (side : Side) : Shape :=
  .record (side.pick "CreditMemo" "DebitMemo")
    (.cons "id" uuid .required
    (.cons "tenant_id" uuid .required
    (.cons "memo_number" Shape.text .required
    (.cons (sourceKey side "return_id") uuid .required
    (.cons (sourceKey side "return_number") Shape.text .required
    (.cons (sourceKey side "order_id") uuid .required
    (.cons (sourceKey side "order_number") Shape.text .required
    (.cons (partyKey side "id") uuid .required
    (.cons (partyKey side "name") Shape.text .required
    (.cons s!"original_{side.entryNoun}_id" (.option uuid) .optional
    (.cons "items" (.list (memoItemShape side)) .defaulted
    (.cons "currency" currencyShape .required
    (.cons (memoTotalKey side) decimal .required
    (.cons "applied_amount" decimal .required
    (.cons "remaining_amount" decimal .required
    (.cons "status" (tagged MemoStatus.tags none) .required
    (.cons "applications" (.list (memoApplicationShape side)) .defaulted
    (.cons "reason" Shape.text .required
    (.cons "remark" Shape.text .defaulted
    (.cons "applied_at" (.option instant) .optional
    (.cons "voided_at" (.option instant) .optional
    (.cons "void_reason" (.option Shape.text) .optional
    (.cons (refundedKey side) (.option instant) .optional
    (.cons "refund_method" (.option Shape.text) .optional
    (.cons "version" Shape.count .required
    (.cons "created_at" instant .required
    (.cons "updated_at" instant .required .nil)))))))))))))))))))))))))))

/-- The memo a decoded memo holds. -/
def memoOf (side : Side) (v : (memoShape side).Denote) : Memo :=
  let (id, tenant, number, returnDoc, returnNumber, order, orderNumber, party, partyName,
    linkedEntry, items, currency, total, applied, remaining, status, applications, reason, remark,
    appliedAt, voidedAt, voidReason, refundedAt, refundMethod, version, createdAt, updatedAt,
    ()) := v
  ⟨side, id, tenant, number, returnDoc, returnNumber, order, orderNumber, party, partyName,
    linkedEntry, items.map (memoItemOf side), currency, total, applied, remaining, status,
    applications.map (memoApplicationOf side), reason, remark, appliedAt, voidedAt, voidReason,
    refundedAt, refundMethod, version, createdAt, updatedAt⟩

end Wire

end Subledger
