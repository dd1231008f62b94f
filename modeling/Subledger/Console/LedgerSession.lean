import Subledger.Console.Session
import Subledger.Wire.Ledger

/-! # Receivable and payable sessions

The request fields of the factory and of each step, and the answers they give: events in
envelopes, the reversal result, the query facts and every accessor.
-/

namespace Subledger

namespace Console

/-- An event of an entry in its envelope. -/
def entryEnvelopeJson (side : Side) (env : Envelope EntryEvent) : Json :=
  Wire.envelopeJson (Wire.entryEventJson side) env

/-- The accessor view of a payment record. -/
def recordGetters (r : PaymentRecord) : Json :=
  .obj [("entity_id", Json.ofUuid r.id), ("record_id", Json.ofUuid r.id),
    ("owner_id", Json.ofUuid r.owner), ("voucher_id", Json.ofUuid r.voucher),
    ("amount", Json.ofDecimal r.amount), ("applied_at", Json.ofInstant r.appliedAt),
    ("remark", .str r.remark), ("status", .str r.status.tag),
    ("reversed_at", Json.ofOptInstant r.reversedAt),
    ("reversal_reason", Json.ofOptString r.reversalReason), ("is_active", .bool r.isActive),
    ("is_reversed", .bool r.isReversed)]

/-- Every accessor of a receivable or payable; summing the active records may abort. -/
def entryGetters (e : Entry) : Except Failure Json := do
  let b := e.balance
  let active ← b.activeTotal
  let sourceTag := (SourceType.tags e.side).tag e.sourceType
  pure (.obj [
    ("common", commonGetters e.id e.tenant (Entry.aggregateType e.side) e.version),
    ("id_typed", Json.ofUuid e.id), ("number", .str e.number),
    ("party_id", Json.ofUuid e.party), ("party_name", .str e.partyName),
    ("source_type", .str sourceTag), ("source_type_display", .str sourceTag),
    ("source_id", Json.ofUuid e.source), ("source_number", .str e.sourceNumber),
    ("currency", .str b.currency.code), ("total_amount", .str b.totalMoney.render),
    ("paid_amount", .str b.paidMoney.render),
    ("outstanding_amount", .str b.outstandingMoney.render), ("status", .str b.status.tag),
    ("due_date", Json.ofOptInstant b.dueDate),
    ("payment_records", Json.ofList recordGetters b.records), ("remark", .str b.remark),
    ("paid_at", Json.ofOptInstant b.paidAt), ("reversed_at", Json.ofOptInstant b.reversedAt),
    ("reversal_reason", Json.ofOptString b.reversalReason),
    ("cancelled_at", Json.ofOptInstant b.cancelledAt),
    ("cancel_reason", Json.ofOptString b.cancelReason),
    ("created_at", Json.ofInstant e.createdAt), ("updated_at", Json.ofInstant e.updatedAt),
    ("is_pending", .bool (b.status == .pending)), ("is_partial", .bool (b.status == .partlyPaid)),
    ("is_paid", .bool (b.status == .paid)), ("is_reversed", .bool (b.status == .reversed)),
    ("is_cancelled", .bool (b.status == .cancelled)),
    ("payment_count", Json.ofNat b.records.length),
    ("active_payment_total", .str (Money.mk active b.currency).render),
    ("paid_percentage", Reply.okOr Json.ofDecimal b.paidPercentage)])

/-- The facts a query step reports. -/
def entryQuery (e : Entry) (now : Instant) : Except Failure Json := do
  let b := e.balance
  let active ← b.activeTotal
  let days := b.daysOverdue now
  pure (.obj [("status", .str b.status.tag), ("is_terminal", .bool b.status.isTerminal),
    ("can_apply_payment", .bool b.status.canApplyPayment),
    ("is_pending", .bool (b.status == .pending)), ("is_partial", .bool (b.status == .partlyPaid)),
    ("is_paid", .bool (b.status == .paid)), ("is_reversed", .bool (b.status == .reversed)),
    ("is_cancelled", .bool (b.status == .cancelled)), ("is_overdue", .bool (b.isOverdue now)),
    ("days_overdue", .num (if days < 0 then .signed days else .unsigned days.toNat)),
    ("payment_count", Json.ofNat b.records.length),
    ("active_payment_total", Json.ofMoney ⟨active, b.currency⟩),
    ("paid_percentage", Reply.okOr Json.ofDecimal b.paidPercentage),
    ("total_amount", Json.ofMoney b.totalMoney), ("paid_amount", Json.ofMoney b.paidMoney),
    ("outstanding_amount", Json.ofMoney b.outstandingMoney), ("version", Json.ofNat e.version)])

/-- Reads the factory fields of an entry, in order. -/
def entryDraft (side : Side) (c : Json) : Ask EntryDraft := do
  let tenant ← Ask.uuid .tenant c "tenant_id"
  let number ← Ask.text c "number"
  let party ← Ask.uuid .aggregate c "party_id"
  let partyName ← Ask.text c "party_name"
  let sourceType ← Ask.outcome (SourceType.parse side (← Ask.text c "source_type"))
  let source ← Ask.uuid .aggregate c "source_id"
  let sourceNumber ← Ask.text c "source_number"
  let total ← Ask.money c "total_amount"
  let dueDate ← Ask.optInstant c "due_date"
  let occurredAt ← Ask.instant c "occurred_at"
  pure ⟨tenant, number, party, partyName, sourceType, source, sourceNumber, total, dueDate,
    occurredAt⟩

/-- The steps of a receivable or payable session. -/
def entryStep (e : Entry) (name : String) (s : Json) : Option (Ask (Cmd (Json × Entry))) :=
  match name with
  | "apply_payment" => some do
    let amount ← Ask.money s "amount"
    let voucher ← Ask.uuid .aggregate s "voucher_id"
    let remark ← Ask.textOr s "remark"
    let at_ ← Ask.instant s "at"
    pure do
      let (e', env) ← e.applyPayment amount voucher remark at_
      pure (.obj [("event", entryEnvelopeJson e.side env)], e')
  | "reverse" => some do
    let reason ← Ask.text s "reason"
    let at_ ← Ask.instant s "at"
    pure do
      let (e', result, env) ← e.reverse reason at_
      pure (.obj [("result", Wire.reversalJson result), ("event", entryEnvelopeJson e.side env)], e')
  | "cancel" => some do
    let reason ← Ask.text s "reason"
    let at_ ← Ask.instant s "at"
    pure do
      let (e', env) ← e.cancel reason at_
      pure (.obj [("event", entryEnvelopeJson e.side env)], e')
  | "set_due_date" => some (updateStep do
    let due ← Ask.optInstant s "due_date"
    let at_ ← Ask.instant s "at"
    pure (e.setDueDate due at_))
  | "set_remark" => some (updateStep do
    let remark ← Ask.text s "remark"
    let at_ ← Ask.instant s "at"
    pure (.ok (e.setRemark remark at_)))
  | "query" => some (queryStep e do
    let now ← Ask.instant s "now"
    pure (entryQuery e now))
  | _ => none

/-- Receivables (sales side) or payables (purchases side) as session documents. -/
def entryDocument (side : Side) : Document Entry where
  store := Wire.entryJson
  load j := ((Wire.entryShape side).decodeDocument j).map (Wire.entryOf side)
  create c := do
    let draft ← entryDraft side c
    pure do
      let (e, env) ← Entry.create side draft
      pure (.obj [("event", entryEnvelopeJson side env)], e)
  version e := e.version
  getters := entryGetters
  step := entryStep

end Console

end Subledger
