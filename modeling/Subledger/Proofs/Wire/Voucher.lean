import Subledger.Proofs.Wire.Values
import Subledger.Console.VoucherSession

/-! # Stored vouchers read back

A receipt or payment voucher is stored with its allocations nested in it. Loading the stored form
gives the voucher back field by field, its allocations in order; decimals keep their digits and
scale, and only a zero loses a sign it may carry. The stored form may leave out the payment
reference, the allocations and the remarks of the voucher and of each allocation; they read back
empty.
-/

namespace Subledger

namespace Allocation

/-- The allocation with a zero amount written without its sign, as reading it back gives it. -/
def canonical (a : Allocation) : Allocation := { a with amount := a.amount.canonical }

/-- The allocation as it reads back from a stored form without the keys `drop` names. -/
def withDefaults (drop : String → Bool) (a : Allocation) : Allocation :=
  { a with remark := if drop "remark" then "" else a.remark }

@[simp] theorem withDefaults_keep (a : Allocation) : a.withDefaults (fun _ => false) = a := rfl

end Allocation

namespace Voucher

/-- The voucher with every zero decimal written without its sign. -/
def canonical (v : Voucher) : Voucher :=
  { v with
    amount := v.amount.canonical
    allocated := v.allocated.canonical
    unallocated := v.unallocated.canonical
    allocations := v.allocations.map Allocation.canonical }

/-- The voucher as it reads back from a stored form without the keys `drop` names. -/
def withDefaults (drop : String → Bool) (v : Voucher) : Voucher :=
  { v with
    reference := if drop "payment_reference" then "" else v.reference
    allocations :=
      if drop "allocations" then [] else v.allocations.map (Allocation.withDefaults drop)
    remark := if drop "remark" then "" else v.remark }

@[simp] theorem withDefaults_keep (v : Voucher) : v.withDefaults (fun _ => false) = v := by
  have allocations : v.allocations.map (Allocation.withDefaults fun _ => false) = v.allocations :=
    List.map_id'' Allocation.withDefaults_keep v.allocations
  simp only [withDefaults, Bool.false_eq_true, ↓reduceIte, allocations]

/-- Every instant the voucher holds is a real one and its version fits 64 bits. -/
structure Valid (v : Voucher) : Prop where
  date : v.date.Valid
  allocations : ∀ a ∈ v.allocations, a.allocatedAt.Valid
  confirmedAt : ∀ t ∈ v.confirmedAt, t.Valid
  cancelledAt : ∀ t ∈ v.cancelledAt, t.Valid
  version : v.version < Nat.pow 2 64
  createdAt : v.createdAt.Valid
  updatedAt : v.updatedAt.Valid

end Voucher

namespace Scan

variable {drop : String → Bool} (omits : ∀ k, drop k = true → k ∈ omittableKeys)

include omits

theorem allocation_stored (side : Side) {a : Allocation} (valid : a.allocatedAt.Valid) :
    ∃ v, Wire.allocationOf side v = (a.withDefaults drop).canonical ∧
      ∀ src, Reads (Wire.allocationShape side).read src
        (Json.storedBytes drop (Wire.allocationJson side a)) v :=
  ⟨_, rfl, fun _ => Decoded.readsStored
    (.kept (kept_of_not_mem omits (by decide)) (uuid_stored a.id).readsTo <|
     .kept (kept_of_not_mem omits (by cases side <;> decide)) (uuid_stored a.voucher).readsTo <|
     .kept (kept_of_not_mem omits (by cases side <;> decide)) (uuid_stored a.target).readsTo <|
     .kept (kept_of_not_mem omits (by cases side <;> decide))
       (text_stored a.targetNumber).readsTo <|
     .kept (kept_of_not_mem omits (by decide)) (decimal_stored a.amount).readsTo <|
     .kept (kept_of_not_mem omits (by decide)) (instant_stored valid).readsTo <|
     .defaulted nofun rfl (fun _ => (text_stored a.remark).readsTo) .nil)
    (by cases side <;> decide)⟩

theorem voucher_stored {v : Voucher} (valid : v.Valid) :
    ∃ w, Wire.voucherOf v.side w = (v.withDefaults drop).canonical ∧
      ∀ src, Reads (Wire.voucherShape v.side).read src
        (Json.storedBytes drop (Wire.voucherJson v)) w := by
  obtain ⟨allocations, allocationsOf, allocationsRead⟩ : ∃ vs,
      vs.map (Wire.allocationOf v.side) =
        v.allocations.map (fun a => (a.withDefaults drop).canonical) ∧
      ∀ src, Reads (readList (Wire.allocationShape v.side).read) src
        (Json.storedBytes drop (.arr (v.allocations.map (Wire.allocationJson v.side)))) vs :=
    list_stored (fun a mem => allocation_stored omits v.side (valid.allocations a mem))
      (fun a _ => opens_obj drop _)
  refine ⟨_, ?_, fun src => Decoded.readsStored
    (.kept (kept_of_not_mem omits (by decide)) (uuid_stored v.id).readsTo <|
     .kept (kept_of_not_mem omits (by decide)) (uuid_stored v.tenant).readsTo <|
     .kept (kept_of_not_mem omits (by decide)) (text_stored v.number).readsTo <|
     .kept (kept_of_not_mem omits (by cases v.side <;> decide)) (uuid_stored v.party).readsTo <|
     .kept (kept_of_not_mem omits (by cases v.side <;> decide))
       (text_stored v.partyName).readsTo <|
     .kept (kept_of_not_mem omits (by decide))
       (tagged_stored _ (Currency.variantOf_code v.currency)).readsTo <|
     .kept (kept_of_not_mem omits (by decide)) (decimal_stored v.amount).readsTo <|
     .kept (kept_of_not_mem omits (by decide)) (decimal_stored v.allocated).readsTo <|
     .kept (kept_of_not_mem omits (by decide)) (decimal_stored v.unallocated).readsTo <|
     .kept (kept_of_not_mem omits (by decide))
       (tagged_stored _ (PaymentMethod.variantOf_tag v.method)).readsTo <|
     .defaulted nofun rfl (fun _ => (text_stored v.reference).readsTo) <|
     .kept (kept_of_not_mem omits (by decide))
       (tagged_stored _ (VoucherStatus.variantOf_tag v.status)).readsTo <|
     .kept (kept_of_not_mem omits (by cases v.side <;> decide))
       (instant_stored valid.date).readsTo <|
     .defaulted nofun rfl (fun _ => (allocationsRead src).readsTo) <|
     .defaulted nofun rfl (fun _ => (text_stored v.remark).readsTo) <|
     .kept (kept_of_not_mem omits (by decide)) (optInstant_stored valid.confirmedAt).readsTo <|
     .kept (kept_of_not_mem omits (by decide)) (optUuid_stored v.confirmedBy).readsTo <|
     .kept (kept_of_not_mem omits (by decide)) (optInstant_stored valid.cancelledAt).readsTo <|
     .kept (kept_of_not_mem omits (by decide)) (optUuid_stored v.cancelledBy).readsTo <|
     .kept (kept_of_not_mem omits (by decide)) (optText_stored v.cancelReason).readsTo <|
     .kept (kept_of_not_mem omits (by decide)) (count_stored valid.version) <|
     .kept (kept_of_not_mem omits (by decide)) (instant_stored valid.createdAt).readsTo <|
     .kept (kept_of_not_mem omits (by decide)) (instant_stored valid.updatedAt).readsTo .nil)
    (by cases v.side <;> decide)⟩
  -- the allocations read back unless they were dropped
  cases dropped : drop "allocations" <;>
    simp only [Wire.voucherOf, Voucher.withDefaults, Voucher.canonical, dropped, allocationsOf,
      Bool.false_eq_true, ↓reduceIte, List.map_nil, List.map_map] <;> rfl

end Scan

namespace Voucher

theorem load_prune {v : Voucher} (valid : v.Valid) {drop : String → Bool}
    (omits : ∀ k, drop k = true → k ∈ omittableKeys) :
    (Console.voucherDocument v.side).load
        (Json.prune drop ((Console.voucherDocument v.side).store v)) =
      .ok (v.withDefaults drop).canonical := by
  obtain ⟨w, decoded, reads⟩ := Scan.voucher_stored omits valid
  show ((Wire.voucherShape v.side).decodeDocument (Json.prune drop (Wire.voucherJson v))).map
    (Wire.voucherOf v.side) = _
  rw [Scan.decodeDocument_prune reads, ← decoded]
  rfl

theorem load_store {v : Voucher} (valid : v.Valid) :
    (Console.voucherDocument v.side).load ((Console.voucherDocument v.side).store v) =
      .ok v.canonical := by
  simpa only [Json.prune_keep, withDefaults_keep] using
    @load_prune v valid (fun _ => false) (fun _ dropped => absurd dropped Bool.false_ne_true)

end Voucher

end Subledger
