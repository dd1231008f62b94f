import Subledger.Console.Session
import Subledger.Wire.Voucher

/-! # Receipt and payment voucher sessions

The request fields of the factory and of each step, and the answers they give: events in
envelopes, allocations, the query facts and every accessor. A receipt voucher has no accessor
for the times of confirmation and cancellation; a payment voucher has both.
-/

namespace Subledger

namespace Console

/-- An event of a voucher in its envelope. -/
def voucherEnvelopeJson (env : Envelope VoucherEvent) : Json :=
  Wire.envelopeJson Wire.voucherEventJson env

/-- The accessor view of an allocation. -/
def allocationGetters (a : Allocation) : Json :=
  .obj [("entity_id", Json.ofUuid a.id), ("allocation_id", Json.ofUuid a.id),
    ("voucher_id", Json.ofUuid a.voucher), ("target_id", Json.ofUuid a.target),
    ("target_number", .str a.targetNumber), ("amount", Json.ofDecimal a.amount),
    ("allocated_at", Json.ofInstant a.allocatedAt), ("remark", .str a.remark)]

/-- Every accessor of a voucher. -/
def voucherGetters (v : Voucher) : Except Failure Json :=
  let times : List (String × Json) := match v.side with
    | .sales => []
    | .purchases => [("confirmed_at", Json.ofOptInstant v.confirmedAt),
        ("cancelled_at", Json.ofOptInstant v.cancelledAt)]
  .ok (.obj ([
    ("common", commonGetters v.id v.tenant (Voucher.aggregateType v.side) v.version),
    ("id_typed", Json.ofUuid v.id), ("number", .str v.number),
    ("party_id", Json.ofUuid v.party), ("party_name", .str v.partyName),
    ("amount", .str v.amountMoney.render), ("allocated_amount", .str v.allocatedMoney.render),
    ("unallocated_amount", .str v.unallocatedMoney.render),
    ("payment_method", .str v.method.tag), ("payment_reference", .str v.reference),
    ("status", .str v.status.tag), ("date", Json.ofInstant v.date),
    ("allocations", Json.ofList allocationGetters v.allocations),
    ("remark", .str v.remark), ("confirmed_by", Json.ofOptUuid v.confirmedBy),
    ("cancelled_by", Json.ofOptUuid v.cancelledBy),
    ("cancel_reason", Json.ofOptString v.cancelReason),
    ("is_draft", .bool (v.status == .draft)), ("is_confirmed", .bool (v.status == .confirmed)),
    ("is_allocated", .bool (v.status == .allocated)),
    ("is_cancelled", .bool (v.status == .cancelled)),
    ("is_fully_allocated", .bool v.isFullyAllocated),
    ("allocation_count", Json.ofNat v.allocations.length),
    ("allocated_percentage", Reply.okOr Json.ofDecimal v.allocatedPercentage)] ++ times))

/-- The facts a query step reports; the allocation is looked up only for a given entry. -/
def voucherQuery (v : Voucher) (target : Option Uuid) : Json :=
  let allocation := match target with
    | some t => (v.allocationFor? t).map (Wire.allocationJson v.side)
    | none => none
  .obj [("status", .str v.status.tag), ("is_terminal", .bool v.status.isTerminal),
    ("can_confirm", .bool v.status.canConfirm), ("can_allocate", .bool v.status.canAllocate),
    ("can_cancel", .bool v.status.canCancel),
    ("is_draft", .bool (v.status == .draft)), ("is_confirmed", .bool (v.status == .confirmed)),
    ("is_allocated", .bool (v.status == .allocated)),
    ("is_cancelled", .bool (v.status == .cancelled)),
    ("is_fully_allocated", .bool v.isFullyAllocated),
    ("allocation_count", Json.ofNat v.allocations.length),
    ("allocated_percentage", Reply.okOr Json.ofDecimal v.allocatedPercentage),
    ("amount", Json.ofMoney v.amountMoney), ("allocated_amount", Json.ofMoney v.allocatedMoney),
    ("unallocated_amount", Json.ofMoney v.unallocatedMoney),
    ("allocation_for_target", allocation.getD .null), ("version", Json.ofNat v.version)]

/-- Reads the factory fields of a voucher, in order. -/
def voucherDraft (c : Json) : Ask VoucherDraft := do
  let tenant ← Ask.uuid .tenant c "tenant_id"
  let number ← Ask.text c "number"
  let party ← Ask.uuid .aggregate c "party_id"
  let partyName ← Ask.text c "party_name"
  let amount ← Ask.money c "amount"
  let method ← Ask.outcome (PaymentMethod.parse (← Ask.text c "payment_method"))
  let date ← Ask.instant c "date"
  let occurredAt ← Ask.instant c "occurred_at"
  pure ⟨tenant, number, party, partyName, amount, method, date, occurredAt⟩

/-- The steps of a voucher session. -/
def voucherStep (v : Voucher) (name : String) (s : Json) :
    Option (Ask (Cmd (Json × Voucher))) :=
  match name with
  | "confirm" => some do
    let user ← Ask.uuid .user s "user_id"
    let at_ ← Ask.instant s "at"
    pure do
      let (v', env) ← v.confirm user at_
      pure (.obj [("event", voucherEnvelopeJson env)], v')
  | "allocate" => some do
    let target ← Ask.uuid .aggregate s "target_id"
    let targetNumber ← Ask.text s "target_number"
    let amount ← Ask.money s "amount"
    let remark ← Ask.textOr s "remark"
    let at_ ← Ask.instant s "at"
    pure do
      let (v', allocation, env) ← v.allocate target targetNumber amount remark at_
      pure (.obj [("allocation", Wire.allocationJson v.side allocation),
        ("event", voucherEnvelopeJson env)], v')
  | "cancel" => some do
    let user ← Ask.uuid .user s "user_id"
    let reason ← Ask.text s "reason"
    let at_ ← Ask.instant s "at"
    pure do
      let (v', env) ← v.cancel user reason at_
      pure (.obj [("event", voucherEnvelopeJson env)], v')
  | "set_payment_reference" => some (updateStep do
    let reference ← Ask.text s "reference"
    let at_ ← Ask.instant s "at"
    pure (v.setReference reference at_))
  | "set_remark" => some (updateStep do
    let remark ← Ask.text s "remark"
    let at_ ← Ask.instant s "at"
    pure (v.setRemark remark at_))
  | "query" => some (queryStep v do
    let target ← Ask.optUuid .aggregate s "target_id"
    pure (.ok (voucherQuery v target)))
  | _ => none

/-- Receipt vouchers (sales side) or payment vouchers (purchases side) as session documents. -/
def voucherDocument (side : Side) : Document Voucher where
  store := Wire.voucherJson
  load j := ((Wire.voucherShape side).decodeDocument j).map (Wire.voucherOf side)
  create c := do
    let draft ← voucherDraft c
    pure do
      let (v, env) ← Voucher.create side draft
      pure (.obj [("event", voucherEnvelopeJson env)], v)
  version v := v.version
  getters := voucherGetters
  step := voucherStep

end Console

end Subledger
