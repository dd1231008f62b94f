import Subledger.Proofs.Wire.Values
import Subledger.Console.LedgerSession

/-! # Stored receivables and payables read back

A receivable or payable is stored with its balance nested in it, and the balance with its
payment records. Loading the stored form gives the entry back field by field: identifiers,
texts, tags and real instants as written, decimals with their digits and scale (only a zero
loses a sign it may carry), and the records in order. The stored form may leave out the
balance's records and the remarks of the balance and of each record; they read back empty.
-/

namespace Subledger

namespace PaymentRecord

/-- The record as it reads back from a stored form without the keys `drop` names. -/
def withDefaults (drop : String → Bool) (r : PaymentRecord) : PaymentRecord :=
  { r with remark := if drop "remark" then "" else r.remark }

@[simp] theorem withDefaults_keep (r : PaymentRecord) : r.withDefaults (fun _ => false) = r := rfl

end PaymentRecord

namespace Balance

/-- The balance with every zero decimal written without its sign, as reading it back gives it. -/
def canonical (b : Balance) : Balance :=
  { b with
    total := b.total.canonical
    paid := b.paid.canonical
    outstanding := b.outstanding.canonical
    records := b.records.map PaymentRecord.canonical }

/-- The balance as it reads back from a stored form without the keys `drop` names. -/
def withDefaults (drop : String → Bool) (b : Balance) : Balance :=
  { b with
    records := if drop "payment_records" then [] else b.records.map (PaymentRecord.withDefaults drop)
    remark := if drop "remark" then "" else b.remark }

@[simp] theorem withDefaults_keep (b : Balance) : b.withDefaults (fun _ => false) = b := by
  have records : b.records.map (PaymentRecord.withDefaults fun _ => false) = b.records :=
    List.map_id'' PaymentRecord.withDefaults_keep b.records
  simp only [withDefaults, Bool.false_eq_true, ↓reduceIte, records]

/-- Every instant the balance holds is a real one. -/
structure Valid (b : Balance) : Prop where
  dueDate : ∀ t ∈ b.dueDate, t.Valid
  records : ∀ r ∈ b.records, r.Valid
  paidAt : ∀ t ∈ b.paidAt, t.Valid
  reversedAt : ∀ t ∈ b.reversedAt, t.Valid
  cancelledAt : ∀ t ∈ b.cancelledAt, t.Valid

end Balance

namespace Entry

/-- The entry with every zero decimal written without its sign. -/
def canonical (e : Entry) : Entry := { e with balance := e.balance.canonical }

/-- The entry as it reads back from a stored form without the keys `drop` names. -/
def withDefaults (drop : String → Bool) (e : Entry) : Entry :=
  { e with balance := e.balance.withDefaults drop }

@[simp] theorem withDefaults_keep (e : Entry) : e.withDefaults (fun _ => false) = e := by
  simp only [withDefaults, Balance.withDefaults_keep]

/-- Every instant the entry holds is a real one and its version fits 64 bits. -/
structure Valid (e : Entry) : Prop where
  balance : e.balance.Valid
  version : e.version < Nat.pow 2 64
  createdAt : e.createdAt.Valid
  updatedAt : e.updatedAt.Valid

end Entry

namespace Scan

variable {drop : String → Bool} (omits : ∀ k, drop k = true → k ∈ omittableKeys)

theorem Decoded.unlessEmpty {src : ScanSource} {k text : String} {fs : Fields}
    {more : List (String × Json)} {vs : fs.Denote}
    (rest : Decoded src fs (Json.storedPairs drop more) vs) :
    Decoded src (.cons k Shape.text .defaulted fs)
      (Json.storedPairs drop ((if text.isEmpty then [] else [(k, .str text)]) ++ more))
      (if drop k then "" else text, vs) := by
  by_cases empty : text.isEmpty
  · obtain rfl : text = "" := String.isEmpty_iff.mp empty
    rw [if_pos empty, List.nil_append]
    cases drop k <;> exact .absent nofun rfl rest
  · rw [if_neg empty, List.singleton_append]
    exact .defaulted nofun rfl (fun _ => (text_stored text).readsTo) rest

include omits

theorem record_stored {r : PaymentRecord} (valid : r.Valid) :
    ∃ v, Wire.recordOf v = (r.withDefaults drop).canonical ∧
      ∀ src, Reads Wire.recordShape.read src (Json.storedBytes drop (Wire.recordJson r)) v := by
  obtain ⟨id, owner, voucher, amount, appliedAt, remark, status, reversedAt, reason⟩ := r
  refine ⟨Wire.recordValue (PaymentRecord.withDefaults drop ⟨id, owner, voucher, amount, appliedAt, remark, status, reversedAt, reason⟩), rfl, fun src => Decoded.readsStored ?_ (by decide)⟩
  simp only [List.append_assoc, List.cons_append, List.nil_append]
  refine .kept (kept_of_not_mem omits (by decide)) (uuid_stored id).readsTo <|
    .kept (kept_of_not_mem omits (by decide)) (uuid_stored owner).readsTo <|
    .kept (kept_of_not_mem omits (by decide)) (uuid_stored voucher).readsTo <|
    .kept (kept_of_not_mem omits (by decide)) (decimal_stored amount).readsTo <|
    .kept (kept_of_not_mem omits (by decide)) (instant_stored valid.appliedAt).readsTo <|
    .unlessEmpty <|
    .kept (kept_of_not_mem omits (by decide))
      (tagged_stored _ (RecordStatus.variantOf_tag status)).readsTo <|
    .kept (kept_of_not_mem omits (by decide)) (optInstant_stored valid.reversedAt).readsTo ?_
  -- a reversal reason is written only when there is one
  cases reason with
  | none => exact .absent nofun rfl .nil
  | some text =>
    exact .kept (kept_of_not_mem omits (by decide)) (optText_stored (some text)).readsTo .nil

theorem balance_stored {b : Balance} (valid : b.Valid) :
    ∃ v, Wire.balanceOf v = (b.withDefaults drop).canonical ∧
      ∀ src, Reads Wire.balanceShape.read src (Json.storedBytes drop (Wire.balanceJson b)) v := by
  obtain ⟨records, recordsOf, recordsRead⟩ : ∃ vs,
      vs.map Wire.recordOf = b.records.map (fun r => (r.withDefaults drop).canonical) ∧
      ∀ src, Reads (readList Wire.recordShape.read) src
        (Json.storedBytes drop (.arr (b.records.map Wire.recordJson))) vs :=
    list_stored (fun r mem => record_stored omits (valid.records r mem)) (fun r _ => opens_obj drop _)
  refine ⟨_, ?_, fun src => Decoded.readsStored
    (.kept (kept_of_not_mem omits (by decide)) (uuid_stored b.owner).readsTo <|
     .kept (kept_of_not_mem omits (by decide))
       (tagged_stored _ (Currency.variantOf_code b.currency)).readsTo <|
     .kept (kept_of_not_mem omits (by decide)) (decimal_stored b.total).readsTo <|
     .kept (kept_of_not_mem omits (by decide)) (decimal_stored b.paid).readsTo <|
     .kept (kept_of_not_mem omits (by decide)) (decimal_stored b.outstanding).readsTo <|
     .kept (kept_of_not_mem omits (by decide))
       (tagged_stored _ (LedgerStatus.variantOf_tag b.status)).readsTo <|
     .kept (kept_of_not_mem omits (by decide)) (optInstant_stored valid.dueDate).readsTo <|
     .defaulted nofun rfl (fun _ => (recordsRead src).readsTo) <|
     .defaulted nofun rfl (fun _ => (text_stored b.remark).readsTo) <|
     .kept (kept_of_not_mem omits (by decide)) (optInstant_stored valid.paidAt).readsTo <|
     .kept (kept_of_not_mem omits (by decide)) (optInstant_stored valid.reversedAt).readsTo <|
     .kept (kept_of_not_mem omits (by decide)) (optText_stored b.reversalReason).readsTo <|
     .kept (kept_of_not_mem omits (by decide)) (optInstant_stored valid.cancelledAt).readsTo <|
     .kept (kept_of_not_mem omits (by decide)) (optText_stored b.cancelReason).readsTo .nil)
    (by decide)⟩
  -- the records read back unless they were dropped
  cases dropped : drop "payment_records" <;>
    simp only [Wire.balanceOf, Balance.withDefaults, Balance.canonical, dropped, recordsOf,
      Bool.false_eq_true, ↓reduceIte, List.map_nil, List.map_map] <;> rfl

theorem entry_stored {e : Entry} (valid : e.Valid) :
    ∃ v, Wire.entryOf e.side v = (e.withDefaults drop).canonical ∧
      ∀ src, Reads (Wire.entryShape e.side).read src (Json.storedBytes drop (Wire.entryJson e)) v := by
  obtain ⟨balance, balanceOf, balanceRead⟩ := balance_stored omits valid.balance
  refine ⟨_, ?_, fun src => Decoded.readsStored
    (.kept (kept_of_not_mem omits (by decide)) (uuid_stored e.id).readsTo <|
     .kept (kept_of_not_mem omits (by decide)) (uuid_stored e.tenant).readsTo <|
     .kept (kept_of_not_mem omits (by cases e.side <;> decide)) (text_stored e.number).readsTo <|
     .kept (kept_of_not_mem omits (by cases e.side <;> decide)) (uuid_stored e.party).readsTo <|
     .kept (kept_of_not_mem omits (by cases e.side <;> decide)) (text_stored e.partyName).readsTo <|
     .kept (kept_of_not_mem omits (by decide))
       (tagged_stored _ (SourceType.variantOf_tag e.side e.sourceType)).readsTo <|
     .kept (kept_of_not_mem omits (by decide)) (uuid_stored e.source).readsTo <|
     .kept (kept_of_not_mem omits (by decide)) (text_stored e.sourceNumber).readsTo <|
     .kept (kept_of_not_mem omits (by decide)) (balanceRead src).readsTo <|
     .kept (kept_of_not_mem omits (by decide)) (count_stored valid.version) <|
     .kept (kept_of_not_mem omits (by decide)) (instant_stored valid.createdAt).readsTo <|
     .kept (kept_of_not_mem omits (by decide)) (instant_stored valid.updatedAt).readsTo .nil)
    (by cases e.side <;> decide)⟩
  simp only [Wire.entryOf, balanceOf]
  rfl

end Scan

namespace Entry

/-- A stored receivable or payable loads back field by field, with what its stored form leaves
out read as empty. -/
theorem load_prune {e : Entry} (valid : e.Valid) {drop : String → Bool}
    (omits : ∀ k, drop k = true → k ∈ omittableKeys) :
    (Console.entryDocument e.side).load (Json.prune drop ((Console.entryDocument e.side).store e)) =
      .ok (e.withDefaults drop).canonical := by
  obtain ⟨v, decoded, reads⟩ := Scan.entry_stored omits valid
  show ((Wire.entryShape e.side).decodeDocument (Json.prune drop (Wire.entryJson e))).map
    (Wire.entryOf e.side) = _
  rw [Scan.decodeDocument_prune reads, ← decoded]
  rfl

/-- A stored receivable or payable loads back as it was, zeros without a sign. -/
theorem load_store {e : Entry} (valid : e.Valid) :
    (Console.entryDocument e.side).load ((Console.entryDocument e.side).store e) =
      .ok e.canonical := by
  simpa only [Json.prune_keep, withDefaults_keep] using
    @load_prune e valid (fun _ => false) (fun _ dropped => absurd dropped Bool.false_ne_true)

end Entry

end Subledger
