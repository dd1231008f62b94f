import Subledger.Proofs.Json.Stored
import Subledger.Wire.Expense
import Subledger.Wire.Memo
import Subledger.Wire.Voucher

/-! # Stored values read back

The values a stored state is made of, each read back from its stored bytes by the shape that
stores it: identifiers, texts, decimals with their digits and scale, real instants, tags of every
kind, optional values, lists of texts, counts that fit 64 bits, and money. Only the keys of
`omittableKeys`, every one of them a field with a default wherever it stands, may be left out of
a stored state; every other key is kept.
-/

namespace Subledger

/-- The keys a stored state may leave out, each read back as its empty or default value. -/
def omittableKeys : List String :=
  ["payment_records", "remark", "allocations", "items", "applications", "payment_reference",
    "attachment_urls", "approval_remark", "receipt_status", "payment_status"]

namespace Money

/-- The money with a zero amount written without its sign, as reading it back gives it. -/
def canonical (m : Money) : Money := { m with amount := m.amount.canonical }

end Money

/-! ## Tags

Every tag reads back as the value it names: the tags of each kind are distinct. -/

theorem RecordStatus.variantOf_tag (s : RecordStatus) :
    Shape.variantOf RecordStatus.tags.pairs (RecordStatus.tags.tag s) = pure s := by
  cases s <;> rfl

theorem LedgerStatus.variantOf_tag (s : LedgerStatus) :
    Shape.variantOf LedgerStatus.tags.pairs (LedgerStatus.tags.tag s) = pure s := by
  cases s <;> rfl

theorem SourceType.variantOf_tag (side : Side) (t : SourceType) :
    Shape.variantOf (SourceType.tags side).pairs ((SourceType.tags side).tag t) = pure t := by
  cases side <;> cases t <;> rfl

theorem Currency.variantOf_code (c : Currency) :
    Shape.variantOf (TagSet.pairs ⟨Currency.all, Currency.code⟩) c.code = pure c := by
  cases c <;> rfl

theorem PaymentMethod.variantOf_tag (m : PaymentMethod) :
    Shape.variantOf PaymentMethod.tags.pairs (PaymentMethod.tags.tag m) = pure m := by
  cases m <;> rfl

theorem VoucherStatus.variantOf_tag (s : VoucherStatus) :
    Shape.variantOf VoucherStatus.tags.pairs (VoucherStatus.tags.tag s) = pure s := by
  cases s <;> rfl

theorem MemoStatus.variantOf_tag (s : MemoStatus) :
    Shape.variantOf MemoStatus.tags.pairs (MemoStatus.tags.tag s) = pure s := by
  cases s <;> rfl

theorem IncomeCategory.variantOf_tag (c : IncomeCategory) :
    Shape.variantOf IncomeCategory.tags.pairs (IncomeCategory.tags.tag c) = pure c := by
  cases c <;> rfl

theorem IncomeStatus.variantOf_tag (s : IncomeStatus) :
    Shape.variantOf IncomeStatus.tags.pairs (IncomeStatus.tags.tag s) = pure s := by
  cases s <;> rfl

theorem ReceiptStatus.variantOf_tag (s : ReceiptStatus) :
    Shape.variantOf ReceiptStatus.tags.pairs (ReceiptStatus.tags.tag s) = pure s := by
  cases s <;> rfl

theorem ExpenseCategory.variantOf_tag (c : ExpenseCategory) :
    Shape.variantOf ExpenseCategory.tags.pairs (ExpenseCategory.tags.tag c) = pure c := by
  cases c <;> rfl

theorem ExpenseStatus.variantOf_tag (s : ExpenseStatus) :
    Shape.variantOf ExpenseStatus.tags.pairs (ExpenseStatus.tags.tag s) = pure s := by
  cases s <;> rfl

theorem PayoutStatus.variantOf_tag (s : PayoutStatus) :
    Shape.variantOf PayoutStatus.tags.pairs (PayoutStatus.tags.tag s) = pure s := by
  cases s <;> rfl

namespace Scan

variable {src : ScanSource} {drop : String → Bool}

theorem kept_of_not_mem (omits : ∀ k, drop k = true → k ∈ omittableKeys) {k : String}
    (required : k ∉ omittableKeys) : drop k = false := by
  cases dropped : drop k with
  | false => rfl
  | true => exact absurd (omits k dropped) required

/-! ## Leaves -/

theorem uuid_stored (u : Uuid) : Reads Wire.uuid.read src (Json.storedBytes drop (Json.ofUuid u)) u :=
  uuid_reads u

theorem text_stored (s : String) : Reads Shape.text.read src (Json.storedBytes drop (.str s)) s :=
  readText_reads _ s

theorem decimal_stored (d : Decimal) :
    Reads Wire.decimal.read src (Json.storedBytes drop (Json.ofDecimal d)) d.canonical :=
  readDecimal_reads d

theorem instant_stored {t : Instant} (valid : t.Valid) :
    Reads Wire.instant.read src (Json.storedBytes drop (Json.ofInstant t)) t :=
  instant_reads valid

theorem tagged_stored {α : Type} {ts : TagSet α} {a : α} (fallback : Option α)
    (found : Shape.variantOf ts.pairs (ts.tag a) = pure a) :
    Reads (Wire.tagged ts fallback).read src (Json.storedBytes drop (.str (ts.tag a))) a :=
  readVariant_reads found

theorem count_stored {n : Nat} (fits : n < Nat.pow 2 64) :
    ReadsTo Shape.count.read src (Json.storedBytes drop (Json.ofNat n)) n :=
  count_readsTo fits

theorem optInstant_stored {moment : Option Instant} (valid : ∀ t ∈ moment, t.Valid) :
    Reads (Shape.option Wire.instant).read src (Json.storedBytes drop (Json.ofOptInstant moment))
      moment := by
  cases moment with
  | none => exact readOption_null _
  | some t => exact readOption_str (instant_reads (valid t rfl))

theorem optUuid_stored (u : Option Uuid) :
    Reads (Shape.option Wire.uuid).read src (Json.storedBytes drop (Json.ofOptUuid u)) u := by
  cases u with
  | none => exact readOption_null _
  | some u => exact readOption_str (uuid_reads u)

theorem optText_stored (s : Option String) :
    Reads (Shape.option Shape.text).read src (Json.storedBytes drop (Json.ofOptString s)) s := by
  cases s with
  | none => exact readOption_null _
  | some s => exact readOption_str (readText_reads _ s)

theorem optMethod_stored (m : Option PaymentMethod) :
    Reads (Shape.option (Wire.tagged PaymentMethod.tags none)).read src
      (Json.storedBytes drop (Wire.ofOptMethod m)) m := by
  cases m with
  | none => exact readOption_null _
  | some m => exact readOption_str (readVariant_reads (PaymentMethod.variantOf_tag m))

theorem texts_stored (xs : List String) :
    Reads (Shape.list Shape.text).read src (Json.storedBytes drop (Json.ofList Json.str xs)) xs := by
  obtain ⟨vs, same, reads⟩ : ∃ vs : List String, vs.map id = xs.map id ∧
      ∀ src, Reads (readList Shape.text.read) src (Json.storedBytes drop (.arr (xs.map Json.str))) vs :=
    list_stored (fun s _ => ⟨s, rfl, fun _ => text_stored s⟩) (fun s _ => opens_str drop s)
  rw [List.map_id, List.map_id] at same
  rw [same] at reads
  exact reads src

theorem money_stored (omits : ∀ k, drop k = true → k ∈ omittableKeys) (m : Money) :
    ∃ v, Wire.moneyOf v = m.canonical ∧
      ∀ src, Reads Wire.moneyShape.read src (Json.storedBytes drop (Json.ofMoney m)) v :=
  ⟨_, rfl, fun _ => Decoded.readsStored
    (.kept (kept_of_not_mem omits (by decide)) (decimal_stored m.amount).readsTo <|
      .kept (kept_of_not_mem omits (by decide))
        (tagged_stored _ (Currency.variantOf_code m.currency)).readsTo .nil)
    (by decide)⟩

end Scan

end Subledger
