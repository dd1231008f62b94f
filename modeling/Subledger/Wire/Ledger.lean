import Subledger.Ledger.Entry
import Subledger.Wire.Leaf
import Subledger.Console.Reply

/-! # Ledger entries as JSON

The stored form of payment records, balances and receivables or payables, and the form of
their events. Field names follow the side: `receivable_id`, `customer_id`,
`receipt_voucher_id` on the sales side, `payable_id`, `supplier_id`, `payment_voucher_id` on
the purchases side. A payment record leaves out an empty remark and an absent reversal reason.
-/

namespace Subledger

namespace Wire

/-- The stored form of a payment record, fields in declaration order. -/
def recordJson (r : PaymentRecord) : Json :=
  .obj ([("id", Json.ofUuid r.id), ("owner_id", Json.ofUuid r.owner),
      ("voucher_id", Json.ofUuid r.voucher), ("amount", Json.ofDecimal r.amount),
      ("applied_at", Json.ofInstant r.appliedAt)] ++
    (if r.remark.isEmpty then [] else [("remark", .str r.remark)]) ++
    [("status", .str r.status.tag), ("reversed_at", Json.ofOptInstant r.reversedAt)] ++
    (match r.reversalReason with
      | some reason => [("reversal_reason", .str reason)]
      | none => []))

/-- The stored form of a balance. -/
def balanceJson (b : Balance) : Json :=
  .obj [("owner_id", Json.ofUuid b.owner), ("currency", .str b.currency.code),
    ("total_amount", Json.ofDecimal b.total), ("paid_amount", Json.ofDecimal b.paid),
    ("outstanding_amount", Json.ofDecimal b.outstanding), ("status", .str b.status.tag),
    ("due_date", Json.ofOptInstant b.dueDate),
    ("payment_records", Json.ofList recordJson b.records), ("remark", .str b.remark),
    ("paid_at", Json.ofOptInstant b.paidAt), ("reversed_at", Json.ofOptInstant b.reversedAt),
    ("reversal_reason", Json.ofOptString b.reversalReason),
    ("cancelled_at", Json.ofOptInstant b.cancelledAt),
    ("cancel_reason", Json.ofOptString b.cancelReason)]

/-- The name of an entry's own identifier field. -/
def entryKey (side : Side) (suffix : String) : String := s!"{side.entryNoun}_{suffix}"

/-- The name of a party field. -/
def partyKey (side : Side) (suffix : String) : String := s!"{side.partyNoun}_{suffix}"

/-- The stored form of a receivable or payable. -/
def entryJson (e : Entry) : Json :=
  .obj [("id", Json.ofUuid e.id), ("tenant_id", Json.ofUuid e.tenant),
    (entryKey e.side "number", .str e.number), (partyKey e.side "id", Json.ofUuid e.party),
    (partyKey e.side "name", .str e.partyName),
    ("source_type", .str ((SourceType.tags e.side).tag e.sourceType)),
    ("source_id", Json.ofUuid e.source), ("source_number", .str e.sourceNumber),
    ("balance", balanceJson e.balance), ("version", Json.ofNat e.version),
    ("created_at", Json.ofInstant e.createdAt), ("updated_at", Json.ofInstant e.updatedAt)]

/-- An audit line of a reversal. -/
def reversedPaymentJson (p : ReversedPayment) : Json :=
  .obj [("payment_record_id", Json.ofUuid p.record), ("voucher_id", Json.ofUuid p.voucher),
    ("amount", Json.ofDecimal p.amount), ("applied_at", Json.ofInstant p.appliedAt),
    ("reversed_at", Json.ofInstant p.reversedAt),
    ("compensation_record_id", Json.ofUuid p.compensation)]

/-- The result of a reversal. -/
def reversalJson (r : ReversalResult) : Json :=
  .obj [("refund_required", .bool r.refundRequired), ("refund_amount", Json.ofMoney r.refundAmount),
    ("outstanding_waived", Json.ofMoney r.outstandingWaived),
    ("reversed_payment_count", Json.ofNat r.reversedCount),
    ("compensation_record_ids", Json.ofList Json.ofUuid r.compensations),
    ("payment_records", Json.ofList recordJson r.records)]

/-- The fields every event of an entry starts with. -/
def entryEventHead (e : Entry) : List (String × Json) :=
  [("tenant_id", Json.ofUuid e.tenant), (entryKey e.side "id", Json.ofUuid e.id),
    (entryKey e.side "number", .str e.number), (partyKey e.side "id", Json.ofUuid e.party)]

/-- The payload of an entry event, tagged with its name. -/
def entryEventJson (side : Side) (ev : EntryEvent) : Json :=
  let voucherKey := s!"{side.voucherNoun}_id"
  let body : List (String × Json) := match ev with
    | .created d id =>
      [("tenant_id", Json.ofUuid d.tenant), (entryKey side "id", Json.ofUuid id),
        (entryKey side "number", .str d.number), (partyKey side "id", Json.ofUuid d.party),
        (partyKey side "name", .str d.partyName),
        ("source_type", .str ((SourceType.tags side).tag d.sourceType)),
        ("source_id", Json.ofUuid d.source), ("source_number", .str d.sourceNumber),
        ("total_amount", Json.ofMoney d.total), ("due_date", Json.ofOptInstant d.dueDate),
        ("occurred_at", Json.ofInstant d.occurredAt)]
    | .partlyPaid e record voucher payment =>
      entryEventHead e ++
        [("payment_record_id", Json.ofUuid record), (voucherKey, Json.ofUuid voucher),
          ("payment_amount", Json.ofMoney payment),
          ("paid_amount", Json.ofMoney e.balance.paidMoney),
          ("outstanding_amount", Json.ofMoney e.balance.outstandingMoney),
          ("occurred_at", Json.ofInstant e.updatedAt)]
    | .paid e record voucher payment =>
      entryEventHead e ++
        [("payment_record_id", Json.ofUuid record), (voucherKey, Json.ofUuid voucher),
          ("payment_amount", Json.ofMoney payment),
          ("total_amount", Json.ofMoney e.balance.totalMoney),
          ("occurred_at", Json.ofInstant e.updatedAt)]
    | .reversed e previous result reason audit at_ =>
      entryEventHead e ++
        [(partyKey side "name", .str e.partyName), ("previous_status", .str previous.tag),
          ("total_amount", Json.ofMoney e.balance.totalMoney),
          ("refund_required", .bool result.refundRequired),
          ("refund_amount", Json.ofMoney result.refundAmount),
          ("outstanding_waived", Json.ofMoney result.outstandingWaived),
          ("reason", .str reason), ("reversed_payments", Json.ofList reversedPaymentJson audit),
          ("occurred_at", Json.ofInstant at_)]
    | .cancelled e reason at_ =>
      entryEventHead e ++
        [("total_amount", Json.ofMoney e.balance.totalMoney), ("reason", .str reason),
          ("occurred_at", Json.ofInstant at_)]
  .obj [(ev.name, .obj body)]

/-- An envelope, with its payload written by `payload`. -/
def envelopeJson (payload : E → Json) (env : Envelope E) : Json :=
  .obj [("event_id", Json.ofUuid env.eventId), ("tenant_id", Json.ofUuid env.tenant),
    ("aggregate_id", Json.ofUuid env.aggregate), ("aggregate_type", .str env.aggregateType),
    ("sequence_number", Json.ofNat env.sequence), ("event_type", .str env.eventType),
    ("schema_version", Json.ofNat eventSchemaVersion),
    ("occurred_at", Json.ofInstant env.occurredAt), ("payload", payload env.payload)]

/-- How a payment record is stored. -/
def recordShape : Shape :=
  .record "PaymentRecord"
    (.cons "id" uuid .required
    (.cons "owner_id" uuid .required
    (.cons "voucher_id" uuid .required
    (.cons "amount" decimal .required
    (.cons "applied_at" instant .required
    (.cons "remark" Shape.text .defaulted
    (.cons "status" (tagged RecordStatus.tags (some .active)) .defaulted
    (.cons "reversed_at" (.option instant) .defaulted
    (.cons "reversal_reason" (.option Shape.text) .defaulted .nil)))))))))

/-- The payment record a decoded record holds. -/
def recordOf (v : recordShape.Denote) : PaymentRecord :=
  let (id, owner, voucher, amount, appliedAt, remark, status, reversedAt, reason, ()) := v
  ⟨id, owner, voucher, amount, appliedAt, remark, status, reversedAt, reason⟩

/-- How a column of payment records is stored: `null` or a list. -/
def recordsShape : Shape := .option (.list recordShape)

/-- The records a decoded column holds. -/
def recordsOf (v : recordsShape.Denote) : List PaymentRecord :=
  match v with
  | some rs => rs.map recordOf
  | none => []

/-- How a currency is stored. -/
def currencyShape : Shape := tagged ⟨Currency.all, Currency.code⟩ (some .cny)

/-- How money is stored: an amount and a currency, both required. -/
def moneyShape : Shape :=
  .record "Money"
    (.cons "amount" decimal .required
    (.cons "currency" currencyShape .required .nil))

/-- The money a decoded money value holds. -/
def moneyOf (v : moneyShape.Denote) : Money :=
  let (amount, currency, ()) := v
  ⟨amount, currency⟩

/-- How a balance is stored. -/
def balanceShape : Shape :=
  .record "LedgerBalance"
    (.cons "owner_id" uuid .required
    (.cons "currency" currencyShape .required
    (.cons "total_amount" decimal .required
    (.cons "paid_amount" decimal .required
    (.cons "outstanding_amount" decimal .required
    (.cons "status" (tagged LedgerStatus.tags none) .required
    (.cons "due_date" (.option instant) .optional
    (.cons "payment_records" (.list recordShape) .defaulted
    (.cons "remark" Shape.text .defaulted
    (.cons "paid_at" (.option instant) .optional
    (.cons "reversed_at" (.option instant) .optional
    (.cons "reversal_reason" (.option Shape.text) .optional
    (.cons "cancelled_at" (.option instant) .optional
    (.cons "cancel_reason" (.option Shape.text) .optional .nil))))))))))))))

/-- The balance a decoded balance holds. -/
def balanceOf (v : balanceShape.Denote) : Balance :=
  let (owner, currency, total, paid, outstanding, status, due, records, remark, paidAt,
    reversedAt, reversalReason, cancelledAt, cancelReason, ()) := v
  ⟨owner, currency, total, paid, outstanding, status, due, records.map recordOf, remark, paidAt,
    reversedAt, reversalReason, cancelledAt, cancelReason⟩

/-- How a receivable or payable is stored. -/
def entryShape (side : Side) : Shape :=
  .record (side.pick "AccountReceivable" "AccountPayable")
    (.cons "id" uuid .required
    (.cons "tenant_id" uuid .required
    (.cons (entryKey side "number") Shape.text .required
    (.cons (partyKey side "id") uuid .required
    (.cons (partyKey side "name") Shape.text .required
    (.cons "source_type" (tagged (SourceType.tags side) none) .required
    (.cons "source_id" uuid .required
    (.cons "source_number" Shape.text .required
    (.cons "balance" balanceShape .required
    (.cons "version" Shape.count .required
    (.cons "created_at" instant .required
    (.cons "updated_at" instant .required .nil))))))))))))

/-- The entry a decoded entry holds. -/
def entryOf (side : Side) (v : (entryShape side).Denote) : Entry :=
  let (id, tenant, number, party, partyName, sourceType, source, sourceNumber, balance, version,
    createdAt, updatedAt, ()) := v
  ⟨side, id, tenant, number, party, partyName, sourceType, source, sourceNumber,
    balanceOf balance, version, createdAt, updatedAt⟩

end Wire

end Subledger
