import Subledger.Voucher.Basic
import Subledger.Wire.Ledger

/-! # Vouchers as JSON

The stored form of receipt and payment vouchers and of their allocations, and the form of
their events. Field names follow the side: `customer_id`, `receipt_date`, `receivable_id` and
`receipt_voucher_id` on the sales side, `supplier_id`, `payment_date`, `payable_id` and
`payment_voucher_id` on the purchases side.
-/

namespace Subledger

namespace Wire

/-- The name of the field holding a voucher's date. -/
def dateKey (side : Side) : String := side.pick "receipt_date" "payment_date"

/-- The name of a field naming a voucher of this side. -/
def voucherKey (side : Side) : String := s!"{side.voucherNoun}_id"

/-- The stored form of an allocation. -/
def allocationJson (side : Side) (a : Allocation) : Json :=
  .obj [("id", Json.ofUuid a.id), (voucherKey side, Json.ofUuid a.voucher),
    (entryKey side "id", Json.ofUuid a.target), (entryKey side "number", .str a.targetNumber),
    ("amount", Json.ofDecimal a.amount), ("allocated_at", Json.ofInstant a.allocatedAt),
    ("remark", .str a.remark)]

/-- The stored form of a voucher, fields in declaration order. -/
def voucherJson (v : Voucher) : Json :=
  .obj [("id", Json.ofUuid v.id), ("tenant_id", Json.ofUuid v.tenant),
    ("voucher_number", .str v.number), (partyKey v.side "id", Json.ofUuid v.party),
    (partyKey v.side "name", .str v.partyName), ("currency", .str v.currency.code),
    ("amount", Json.ofDecimal v.amount), ("allocated_amount", Json.ofDecimal v.allocated),
    ("unallocated_amount", Json.ofDecimal v.unallocated),
    ("payment_method", .str v.method.tag), ("payment_reference", .str v.reference),
    ("status", .str v.status.tag), (dateKey v.side, Json.ofInstant v.date),
    ("allocations", Json.ofList (allocationJson v.side) v.allocations), ("remark", .str v.remark),
    ("confirmed_at", Json.ofOptInstant v.confirmedAt),
    ("confirmed_by", Json.ofOptUuid v.confirmedBy),
    ("cancelled_at", Json.ofOptInstant v.cancelledAt),
    ("cancelled_by", Json.ofOptUuid v.cancelledBy),
    ("cancel_reason", Json.ofOptString v.cancelReason), ("version", Json.ofNat v.version),
    ("created_at", Json.ofInstant v.createdAt), ("updated_at", Json.ofInstant v.updatedAt)]

/-- The fields every event of a voucher starts with. -/
def voucherEventHead (v : Voucher) : List (String × Json) :=
  [("tenant_id", Json.ofUuid v.tenant), ("voucher_id", Json.ofUuid v.id),
    ("voucher_number", .str v.number), (partyKey v.side "id", Json.ofUuid v.party)]

/-- The payload of a voucher event, tagged with its name. -/
def voucherEventJson (ev : VoucherEvent) : Json :=
  let body : List (String × Json) := match ev with
    | .created v amount at_ =>
      voucherEventHead v ++
        [(partyKey v.side "name", .str v.partyName), ("amount", Json.ofMoney amount),
          ("payment_method", .str v.method.tag), (dateKey v.side, Json.ofInstant v.date),
          ("occurred_at", Json.ofInstant at_)]
    | .confirmed v by_ at_ =>
      voucherEventHead v ++
        [("amount", Json.ofMoney v.amountMoney), ("confirmed_by", Json.ofUuid by_),
          ("occurred_at", Json.ofInstant at_)]
    | .allocated v a amount full at_ =>
      voucherEventHead v ++
        [("allocation_id", Json.ofUuid a.id), (entryKey v.side "id", Json.ofUuid a.target),
          (entryKey v.side "number", .str a.targetNumber),
          ("allocation_amount", Json.ofMoney amount),
          ("allocated_amount", Json.ofMoney v.allocatedMoney),
          ("unallocated_amount", Json.ofMoney v.unallocatedMoney),
          ("fully_allocated", .bool full), ("occurred_at", Json.ofInstant at_)]
    | .cancelled v previous by_ reason at_ =>
      voucherEventHead v ++
        [("amount", Json.ofMoney v.amountMoney), ("previous_status", .str previous.tag),
          ("cancelled_by", Json.ofUuid by_), ("reason", .str reason),
          ("occurred_at", Json.ofInstant at_)]
  .obj [(ev.name, .obj body)]

/-- How an allocation is stored. -/
def allocationShape (side : Side) : Shape :=
  .record (side.pick "ReceivableAllocation" "PayableAllocation")
    (.cons "id" uuid .required
    (.cons (voucherKey side) uuid .required
    (.cons (entryKey side "id") uuid .required
    (.cons (entryKey side "number") Shape.text .required
    (.cons "amount" decimal .required
    (.cons "allocated_at" instant .required
    (.cons "remark" Shape.text .defaulted .nil)))))))

/-- The allocation a decoded allocation holds. -/
def allocationOf (side : Side) (v : (allocationShape side).Denote) : Allocation :=
  let (id, voucher, target, targetNumber, amount, allocatedAt, remark, ()) := v
  ⟨id, voucher, target, targetNumber, amount, allocatedAt, remark⟩

/-- How a voucher is stored. -/
def voucherShape (side : Side) : Shape :=
  .record (side.pick "ReceiptVoucher" "PaymentVoucher")
    (.cons "id" uuid .required
    (.cons "tenant_id" uuid .required
    (.cons "voucher_number" Shape.text .required
    (.cons (partyKey side "id") uuid .required
    (.cons (partyKey side "name") Shape.text .required
    (.cons "currency" currencyShape .required
    (.cons "amount" decimal .required
    (.cons "allocated_amount" decimal .required
    (.cons "unallocated_amount" decimal .required
    (.cons "payment_method" (tagged PaymentMethod.tags none) .required
    (.cons "payment_reference" Shape.text .defaulted
    (.cons "status" (tagged VoucherStatus.tags none) .required
    (.cons (dateKey side) instant .required
    (.cons "allocations" (.list (allocationShape side)) .defaulted
    (.cons "remark" Shape.text .defaulted
    (.cons "confirmed_at" (.option instant) .optional
    (.cons "confirmed_by" (.option uuid) .optional
    (.cons "cancelled_at" (.option instant) .optional
    (.cons "cancelled_by" (.option uuid) .optional
    (.cons "cancel_reason" (.option Shape.text) .optional
    (.cons "version" Shape.count .required
    (.cons "created_at" instant .required
    (.cons "updated_at" instant .required .nil)))))))))))))))))))))))

/-- The voucher a decoded voucher holds. -/
def voucherOf (side : Side) (v : (voucherShape side).Denote) : Voucher :=
  let (id, tenant, number, party, partyName, currency, amount, allocated, unallocated, method,
    reference, status, date, allocations, remark, confirmedAt, confirmedBy, cancelledAt,
    cancelledBy, cancelReason, version, createdAt, updatedAt, ()) := v
  ⟨side, id, tenant, number, party, partyName, currency, amount, allocated, unallocated, method,
    reference, status, date, allocations.map (allocationOf side), remark, confirmedAt,
    confirmedBy, cancelledAt, cancelledBy, cancelReason, version, createdAt, updatedAt⟩

end Wire

end Subledger
