import Subledger.Proofs.Wire.Values
import Subledger.Console.BookingSession

/-! # Stored income and expense records read back

An income or expense record is stored with its amount as money nested in it. Loading the stored
form gives the record back field by field, its attachments in order; the amount keeps its digits
and scale, and only a zero loses a sign it may carry. The stored form may leave out the remark,
the attachments, the approval remark and the receipt or payment status; the texts and the list
read back empty, an income's receipt status as pending and an expense's payment status as
unpaid.
-/

namespace Subledger

namespace Income

/-- The record with a zero amount written without its sign. -/
def canonical (r : Income) : Income := { r with amount := r.amount.canonical }

/-- The record as it reads back from a stored form without the keys `drop` names. -/
def withDefaults (drop : String → Bool) (r : Income) : Income :=
  { r with
    receipt := if drop "receipt_status" then .pending else r.receipt
    remark := if drop "remark" then "" else r.remark
    attachments := if drop "attachment_urls" then [] else r.attachments }

@[simp] theorem withDefaults_keep (r : Income) : r.withDefaults (fun _ => false) = r := rfl

/-- Every instant the record holds is a real one and its version fits 64 bits. -/
structure Valid (r : Income) : Prop where
  receivedAt : r.receivedAt.Valid
  actualReceivedAt : ∀ t ∈ r.actualReceivedAt, t.Valid
  confirmedAt : ∀ t ∈ r.confirmedAt, t.Valid
  cancelledAt : ∀ t ∈ r.cancelledAt, t.Valid
  version : r.version < Nat.pow 2 64
  createdAt : r.createdAt.Valid
  updatedAt : r.updatedAt.Valid

end Income

namespace Expense

/-- The record with a zero amount written without its sign. -/
def canonical (r : Expense) : Expense := { r with amount := r.amount.canonical }

/-- The record as it reads back from a stored form without the keys `drop` names. -/
def withDefaults (drop : String → Bool) (r : Expense) : Expense :=
  { r with
    payout := if drop "payment_status" then .unpaid else r.payout
    remark := if drop "remark" then "" else r.remark
    attachments := if drop "attachment_urls" then [] else r.attachments
    approvalRemark := if drop "approval_remark" then "" else r.approvalRemark }

@[simp] theorem withDefaults_keep (r : Expense) : r.withDefaults (fun _ => false) = r := rfl

/-- Every instant the record holds is a real one and its version fits 64 bits. -/
structure Valid (r : Expense) : Prop where
  incurredAt : r.incurredAt.Valid
  paidAt : ∀ t ∈ r.paidAt, t.Valid
  submittedAt : ∀ t ∈ r.submittedAt, t.Valid
  approvedAt : ∀ t ∈ r.approvedAt, t.Valid
  rejectedAt : ∀ t ∈ r.rejectedAt, t.Valid
  cancelledAt : ∀ t ∈ r.cancelledAt, t.Valid
  version : r.version < Nat.pow 2 64
  createdAt : r.createdAt.Valid
  updatedAt : r.updatedAt.Valid

end Expense

namespace Scan

variable {drop : String → Bool} (omits : ∀ k, drop k = true → k ∈ omittableKeys)

include omits

theorem income_stored {r : Income} (valid : r.Valid) :
    ∃ v, Wire.incomeOf v = (r.withDefaults drop).canonical ∧
      ∀ src, Reads Wire.incomeShape.read src (Json.storedBytes drop (Wire.incomeJson r)) v := by
  obtain ⟨amount, amountOf, amountRead⟩ := money_stored omits r.amount
  refine ⟨_, ?_, fun src => Decoded.readsStored
    (.kept (kept_of_not_mem omits (by decide)) (uuid_stored r.id).readsTo <|
     .kept (kept_of_not_mem omits (by decide)) (uuid_stored r.tenant).readsTo <|
     .kept (kept_of_not_mem omits (by decide)) (text_stored r.number).readsTo <|
     .kept (kept_of_not_mem omits (by decide))
       (tagged_stored _ (IncomeCategory.variantOf_tag r.category)).readsTo <|
     .kept (kept_of_not_mem omits (by decide)) (amountRead src).readsTo <|
     .kept (kept_of_not_mem omits (by decide)) (text_stored r.description).readsTo <|
     .kept (kept_of_not_mem omits (by decide)) (instant_stored valid.receivedAt).readsTo <|
     .kept (kept_of_not_mem omits (by decide))
       (tagged_stored _ (IncomeStatus.variantOf_tag r.status)).readsTo <|
     .defaulted nofun rfl
       (fun _ => (tagged_stored _ (ReceiptStatus.variantOf_tag r.receipt)).readsTo) <|
     .kept (kept_of_not_mem omits (by decide)) (optMethod_stored r.method).readsTo <|
     .kept (kept_of_not_mem omits (by decide))
       (optInstant_stored valid.actualReceivedAt).readsTo <|
     .defaulted nofun rfl (fun _ => (text_stored r.remark).readsTo) <|
     .defaulted nofun rfl (fun _ => (texts_stored r.attachments).readsTo) <|
     .kept (kept_of_not_mem omits (by decide)) (optInstant_stored valid.confirmedAt).readsTo <|
     .kept (kept_of_not_mem omits (by decide)) (optUuid_stored r.confirmedBy).readsTo <|
     .kept (kept_of_not_mem omits (by decide)) (optInstant_stored valid.cancelledAt).readsTo <|
     .kept (kept_of_not_mem omits (by decide)) (optUuid_stored r.cancelledBy).readsTo <|
     .kept (kept_of_not_mem omits (by decide)) (optText_stored r.cancelReason).readsTo <|
     .kept (kept_of_not_mem omits (by decide)) (count_stored valid.version) <|
     .kept (kept_of_not_mem omits (by decide)) (instant_stored valid.createdAt).readsTo <|
     .kept (kept_of_not_mem omits (by decide)) (instant_stored valid.updatedAt).readsTo .nil)
    (by decide)⟩
  simp only [Wire.incomeOf, amountOf]
  rfl

theorem expense_stored {r : Expense} (valid : r.Valid) :
    ∃ v, Wire.expenseOf v = (r.withDefaults drop).canonical ∧
      ∀ src, Reads Wire.expenseShape.read src (Json.storedBytes drop (Wire.expenseJson r)) v := by
  obtain ⟨amount, amountOf, amountRead⟩ := money_stored omits r.amount
  refine ⟨_, ?_, fun src => Decoded.readsStored
    (.kept (kept_of_not_mem omits (by decide)) (uuid_stored r.id).readsTo <|
     .kept (kept_of_not_mem omits (by decide)) (uuid_stored r.tenant).readsTo <|
     .kept (kept_of_not_mem omits (by decide)) (text_stored r.number).readsTo <|
     .kept (kept_of_not_mem omits (by decide))
       (tagged_stored _ (ExpenseCategory.variantOf_tag r.category)).readsTo <|
     .kept (kept_of_not_mem omits (by decide)) (amountRead src).readsTo <|
     .kept (kept_of_not_mem omits (by decide)) (text_stored r.description).readsTo <|
     .kept (kept_of_not_mem omits (by decide)) (instant_stored valid.incurredAt).readsTo <|
     .kept (kept_of_not_mem omits (by decide))
       (tagged_stored _ (ExpenseStatus.variantOf_tag r.status)).readsTo <|
     .defaulted nofun rfl
       (fun _ => (tagged_stored _ (PayoutStatus.variantOf_tag r.payout)).readsTo) <|
     .kept (kept_of_not_mem omits (by decide)) (optMethod_stored r.method).readsTo <|
     .kept (kept_of_not_mem omits (by decide)) (optInstant_stored valid.paidAt).readsTo <|
     .defaulted nofun rfl (fun _ => (text_stored r.remark).readsTo) <|
     .defaulted nofun rfl (fun _ => (texts_stored r.attachments).readsTo) <|
     .kept (kept_of_not_mem omits (by decide)) (optInstant_stored valid.submittedAt).readsTo <|
     .kept (kept_of_not_mem omits (by decide)) (optUuid_stored r.submittedBy).readsTo <|
     .kept (kept_of_not_mem omits (by decide)) (optInstant_stored valid.approvedAt).readsTo <|
     .kept (kept_of_not_mem omits (by decide)) (optUuid_stored r.approvedBy).readsTo <|
     .defaulted nofun rfl (fun _ => (text_stored r.approvalRemark).readsTo) <|
     .kept (kept_of_not_mem omits (by decide)) (optInstant_stored valid.rejectedAt).readsTo <|
     .kept (kept_of_not_mem omits (by decide)) (optUuid_stored r.rejectedBy).readsTo <|
     .kept (kept_of_not_mem omits (by decide)) (optText_stored r.rejectionReason).readsTo <|
     .kept (kept_of_not_mem omits (by decide)) (optInstant_stored valid.cancelledAt).readsTo <|
     .kept (kept_of_not_mem omits (by decide)) (optUuid_stored r.cancelledBy).readsTo <|
     .kept (kept_of_not_mem omits (by decide)) (optText_stored r.cancelReason).readsTo <|
     .kept (kept_of_not_mem omits (by decide)) (count_stored valid.version) <|
     .kept (kept_of_not_mem omits (by decide)) (instant_stored valid.createdAt).readsTo <|
     .kept (kept_of_not_mem omits (by decide)) (instant_stored valid.updatedAt).readsTo .nil)
    (by decide)⟩
  simp only [Wire.expenseOf, amountOf]
  rfl

end Scan

/-- A stored income record loads back field by field, with what its stored form leaves out read
as its default. -/
theorem Income.load_prune {r : Income} (valid : r.Valid) {drop : String → Bool}
    (omits : ∀ k, drop k = true → k ∈ omittableKeys) :
    Console.incomeDocument.load (Json.prune drop (Console.incomeDocument.store r)) =
      .ok (r.withDefaults drop).canonical := by
  obtain ⟨v, decoded, reads⟩ := Scan.income_stored omits valid
  show (Wire.incomeShape.decodeDocument (Json.prune drop (Wire.incomeJson r))).map Wire.incomeOf = _
  rw [Scan.decodeDocument_prune reads, ← decoded]
  rfl

/-- A stored income record loads back as it was, a zero amount without a sign. -/
theorem Income.load_store {r : Income} (valid : r.Valid) :
    Console.incomeDocument.load (Console.incomeDocument.store r) = .ok r.canonical := by
  simpa only [Json.prune_keep, Income.withDefaults_keep] using
    @Income.load_prune r valid (fun _ => false) (fun _ dropped => absurd dropped Bool.false_ne_true)

theorem Expense.load_prune {r : Expense} (valid : r.Valid) {drop : String → Bool}
    (omits : ∀ k, drop k = true → k ∈ omittableKeys) :
    Console.expenseDocument.load (Json.prune drop (Console.expenseDocument.store r)) =
      .ok (r.withDefaults drop).canonical := by
  obtain ⟨v, decoded, reads⟩ := Scan.expense_stored omits valid
  show (Wire.expenseShape.decodeDocument (Json.prune drop (Wire.expenseJson r))).map
    Wire.expenseOf = _
  rw [Scan.decodeDocument_prune reads, ← decoded]
  rfl

theorem Expense.load_store {r : Expense} (valid : r.Valid) :
    Console.expenseDocument.load (Console.expenseDocument.store r) = .ok r.canonical := by
  simpa only [Json.prune_keep, Expense.withDefaults_keep] using
    @Expense.load_prune r valid (fun _ => false) (fun _ dropped => absurd dropped Bool.false_ne_true)

end Subledger
