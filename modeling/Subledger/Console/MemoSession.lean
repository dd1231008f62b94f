import Subledger.Console.Session
import Subledger.Wire.Memo

/-! # Credit and debit memo sessions

The request fields of the factory and of each step, and the answers they give: events in
envelopes, added lines, the query facts and every accessor. Request fields use the same names
on both sides (`return_id`, `party_id`, `total`, `unit_price`).
-/

namespace Subledger

namespace Console

/-- An event of a memo in its envelope. -/
def memoEnvelopeJson (side : Side) (env : Envelope MemoEvent) : Json :=
  Wire.envelopeJson (Wire.memoEventJson side) env

/-- Every accessor of a memo; lines and applications are listed with their identifiers. -/
def memoGetters (m : Memo) : Except Failure Json :=
  let side := m.side
  .ok (.obj [
    ("common", commonGetters m.id m.tenant (Memo.aggregateType side) m.version),
    ("id_typed", Json.ofUuid m.id), ("number", .str m.number),
    ("return_id", Json.ofUuid m.returnDoc), ("return_number", .str m.returnNumber),
    ("order_id", Json.ofUuid m.order), ("order_number", .str m.orderNumber),
    ("party_id", Json.ofUuid m.party), ("party_name", .str m.partyName),
    ("original_id", Json.ofOptUuid m.linkedEntry),
    ("items", Json.ofList (fun i => .obj [("entity_id", Json.ofUuid i.id),
      ("item", Wire.memoItemJson side i)]) m.items),
    ("applications", Json.ofList (fun a => .obj [("entity_id", Json.ofUuid a.id),
      ("application", Wire.memoApplicationJson side a)]) m.applications),
    ("total", .str m.totalMoney.render), ("applied_amount", .str m.appliedMoney.render),
    ("remaining_amount", .str m.remainingMoney.render), ("status", .str m.status.tag),
    ("reason", .str m.reason), ("remark", .str m.remark),
    ("applied_at", Json.ofOptInstant m.appliedAt), ("voided_at", Json.ofOptInstant m.voidedAt),
    ("void_reason", Json.ofOptString m.voidReason),
    ("refunded_at", Json.ofOptInstant m.refundedAt),
    ("refund_method", Json.ofOptString m.refundMethod),
    ("is_pending", .bool (m.status == .pending)),
    ("is_partial", .bool (m.status == .partlyApplied)),
    ("is_applied", .bool (m.status == .applied)), ("is_voided", .bool (m.status == .voided)),
    ("is_refunded", .bool (m.status == .refunded)),
    ("item_count", Json.ofNat m.items.length),
    ("application_count", Json.ofNat m.applications.length),
    ("items_total", Reply.okOr (fun t => .str (Money.render t)) m.itemsTotal),
    ("applied_percentage", Reply.okOr Json.ofDecimal m.appliedPercentage)])

/-- The facts a query step reports. -/
def memoQuery (m : Memo) : Json :=
  .obj [("status", .str m.status.tag), ("is_terminal", .bool m.status.isTerminal),
    ("can_apply", .bool m.status.canApply),
    ("is_pending", .bool (m.status == .pending)),
    ("is_partial", .bool (m.status == .partlyApplied)),
    ("is_applied", .bool (m.status == .applied)), ("is_voided", .bool (m.status == .voided)),
    ("is_refunded", .bool (m.status == .refunded)),
    ("item_count", Json.ofNat m.items.length),
    ("application_count", Json.ofNat m.applications.length),
    ("items_total", Reply.okOr Json.ofMoney m.itemsTotal),
    ("applied_percentage", Reply.okOr Json.ofDecimal m.appliedPercentage),
    ("total", Json.ofMoney m.totalMoney), ("applied_amount", Json.ofMoney m.appliedMoney),
    ("remaining_amount", Json.ofMoney m.remainingMoney), ("version", Json.ofNat m.version)]

/-- Reads the factory fields of a memo, in order. -/
def memoDraft (c : Json) : Ask MemoDraft := do
  let tenant ← Ask.uuid .tenant c "tenant_id"
  let number ← Ask.text c "number"
  let returnDoc ← Ask.uuid .aggregate c "return_id"
  let returnNumber ← Ask.text c "return_number"
  let order ← Ask.uuid .aggregate c "order_id"
  let orderNumber ← Ask.text c "order_number"
  let party ← Ask.uuid .aggregate c "party_id"
  let partyName ← Ask.text c "party_name"
  let total ← Ask.money c "total"
  let reason ← Ask.text c "reason"
  let occurredAt ← Ask.instant c "occurred_at"
  pure ⟨tenant, number, returnDoc, returnNumber, order, orderNumber, party, partyName, total,
    reason, occurredAt⟩

/-- Reads the fields of a returned line, in order. -/
def memoLine (s : Json) : Ask MemoLine := do
  let returnDoc ← Ask.uuid .aggregate s "return_id"
  let returnItem ← Ask.uuid .aggregate s "return_item_id"
  let product ← Ask.uuid .aggregate s "product_id"
  let productName ← Ask.textOr s "product_name"
  let productCode ← Ask.textOr s "product_code"
  let unit ← Ask.textOr s "unit"
  let quantity ← Ask.decimal s "quantity"
  let unitPrice ← Ask.money s "unit_price"
  let reason ← Ask.textOr s "reason"
  pure ⟨returnDoc, returnItem, product, productName, productCode, unit, quantity, unitPrice,
    reason⟩

/-- The steps of a memo session. -/
def memoStep (m : Memo) (name : String) (s : Json) : Option (Ask (Cmd (Json × Memo))) :=
  let side := m.side
  match name with
  | "add_item" => some do
    let line ← memoLine s
    let at_ ← Ask.instant s "at"
    pure do
      let (m', item) ← m.addItem line at_
      pure (.obj [("item", Wire.memoItemJson side item)], m')
  | "set_original" => some (updateStep do
    let target ← Ask.uuid .aggregate s "target_id"
    let at_ ← Ask.instant s "at"
    pure (m.linkEntry target at_))
  | "apply" => some do
    let target ← Ask.uuid .aggregate s "target_id"
    let amount ← Ask.money s "amount"
    let remark ← Ask.textOr s "remark"
    let at_ ← Ask.instant s "at"
    pure do
      let (m', env) ← m.apply target amount remark at_
      pure (.obj [("event", memoEnvelopeJson side env)], m')
  | "void" => some do
    let reason ← Ask.text s "reason"
    let at_ ← Ask.instant s "at"
    pure do
      let (m', env) ← m.void reason at_
      pure (.obj [("event", memoEnvelopeJson side env)], m')
  | "refund" => some do
    let method ← Ask.text s "method"
    let at_ ← Ask.instant s "at"
    pure do
      let (m', env) ← m.refund method at_
      pure (.obj [("event", memoEnvelopeJson side env)], m')
  | "set_remark" => some (updateStep do
    let remark ← Ask.text s "remark"
    let at_ ← Ask.instant s "at"
    pure (.ok (m.setRemark remark at_)))
  | "query" => some (queryStep m (pure (.ok (memoQuery m))))
  | _ => none

/-- Credit memos (sales side) or debit memos (purchases side) as session documents. -/
def memoDocument (side : Side) : Document Memo where
  store := Wire.memoJson
  load j := ((Wire.memoShape side).decodeDocument j).map (Wire.memoOf side)
  create c := do
    let draft ← memoDraft c
    pure do
      let (m, env) ← Memo.create side draft
      pure (.obj [("event", memoEnvelopeJson side env)], m)
  version m := m.version
  getters := memoGetters
  step := memoStep

end Console

end Subledger
