import Subledger.Proofs.Wire.Values
import Subledger.Console.MemoSession

/-! # Stored memos read back

A credit or debit memo is stored with its lines and its applications nested in it. Loading the
stored form gives the memo back field by field, lines and applications in order; decimals keep
their digits and scale, and only a zero loses a sign it may carry. The stored form may leave out
the lines, the applications and the remarks of the memo and of each application; they read back
empty.
-/

namespace Subledger

namespace MemoItem

/-- The line with every zero decimal written without its sign. -/
def canonical (i : MemoItem) : MemoItem :=
  { i with
    quantity := i.quantity.canonical
    unitPrice := i.unitPrice.canonical
    amount := i.amount.canonical }

end MemoItem

namespace MemoApplication

/-- The application with a zero amount written without its sign. -/
def canonical (a : MemoApplication) : MemoApplication := { a with amount := a.amount.canonical }

/-- The application as it reads back from a stored form without the keys `drop` names. -/
def withDefaults (drop : String → Bool) (a : MemoApplication) : MemoApplication :=
  { a with remark := if drop "remark" then "" else a.remark }

@[simp] theorem withDefaults_keep (a : MemoApplication) :
    a.withDefaults (fun _ => false) = a := rfl

end MemoApplication

namespace Memo

/-- The memo with every zero decimal written without its sign. -/
def canonical (m : Memo) : Memo :=
  { m with
    items := m.items.map MemoItem.canonical
    total := m.total.canonical
    applied := m.applied.canonical
    remaining := m.remaining.canonical
    applications := m.applications.map MemoApplication.canonical }

/-- The memo as it reads back from a stored form without the keys `drop` names. -/
def withDefaults (drop : String → Bool) (m : Memo) : Memo :=
  { m with
    items := if drop "items" then [] else m.items
    applications :=
      if drop "applications" then [] else m.applications.map (MemoApplication.withDefaults drop)
    remark := if drop "remark" then "" else m.remark }

@[simp] theorem withDefaults_keep (m : Memo) : m.withDefaults (fun _ => false) = m := by
  have applications :
      m.applications.map (MemoApplication.withDefaults fun _ => false) = m.applications :=
    List.map_id'' MemoApplication.withDefaults_keep m.applications
  simp only [withDefaults, Bool.false_eq_true, ↓reduceIte, applications]

/-- Every instant the memo holds is a real one and its version fits 64 bits. -/
structure Valid (m : Memo) : Prop where
  items : ∀ i ∈ m.items, i.createdAt.Valid
  applications : ∀ a ∈ m.applications, a.appliedAt.Valid
  appliedAt : ∀ t ∈ m.appliedAt, t.Valid
  voidedAt : ∀ t ∈ m.voidedAt, t.Valid
  refundedAt : ∀ t ∈ m.refundedAt, t.Valid
  version : m.version < Nat.pow 2 64
  createdAt : m.createdAt.Valid
  updatedAt : m.updatedAt.Valid

end Memo

namespace Scan

variable {drop : String → Bool} (omits : ∀ k, drop k = true → k ∈ omittableKeys)

include omits

theorem memoItem_stored (side : Side) {i : MemoItem} (valid : i.createdAt.Valid) :
    ∃ v, Wire.memoItemOf side v = i.canonical ∧
      ∀ src, Reads (Wire.memoItemShape side).read src
        (Json.storedBytes drop (Wire.memoItemJson side i)) v :=
  ⟨_, rfl, fun _ => Decoded.readsStored
    (.kept (kept_of_not_mem omits (by decide)) (uuid_stored i.id).readsTo <|
     .kept (kept_of_not_mem omits (by cases side <;> decide)) (uuid_stored i.memo).readsTo <|
     .kept (kept_of_not_mem omits (by cases side <;> decide)) (uuid_stored i.returnDoc).readsTo <|
     .kept (kept_of_not_mem omits (by decide)) (uuid_stored i.returnItem).readsTo <|
     .kept (kept_of_not_mem omits (by decide)) (uuid_stored i.product).readsTo <|
     .kept (kept_of_not_mem omits (by decide)) (text_stored i.productName).readsTo <|
     .kept (kept_of_not_mem omits (by decide)) (text_stored i.productCode).readsTo <|
     .kept (kept_of_not_mem omits (by decide)) (text_stored i.unit).readsTo <|
     .kept (kept_of_not_mem omits (by decide)) (decimal_stored i.quantity).readsTo <|
     .kept (kept_of_not_mem omits (by cases side <;> decide))
       (decimal_stored i.unitPrice).readsTo <|
     .kept (kept_of_not_mem omits (by cases side <;> decide)) (decimal_stored i.amount).readsTo <|
     .kept (kept_of_not_mem omits (by decide)) (text_stored i.reason).readsTo <|
     .kept (kept_of_not_mem omits (by decide)) (instant_stored valid).readsTo .nil)
    (by cases side <;> decide)⟩

theorem memoApplication_stored (side : Side) {a : MemoApplication} (valid : a.appliedAt.Valid) :
    ∃ v, Wire.memoApplicationOf side v = (a.withDefaults drop).canonical ∧
      ∀ src, Reads (Wire.memoApplicationShape side).read src
        (Json.storedBytes drop (Wire.memoApplicationJson side a)) v :=
  ⟨_, rfl, fun _ => Decoded.readsStored
    (.kept (kept_of_not_mem omits (by decide)) (uuid_stored a.id).readsTo <|
     .kept (kept_of_not_mem omits (by cases side <;> decide)) (uuid_stored a.memo).readsTo <|
     .kept (kept_of_not_mem omits (by cases side <;> decide)) (uuid_stored a.target).readsTo <|
     .kept (kept_of_not_mem omits (by decide)) (decimal_stored a.amount).readsTo <|
     .kept (kept_of_not_mem omits (by decide)) (instant_stored valid).readsTo <|
     .defaulted nofun rfl (fun _ => (text_stored a.remark).readsTo) .nil)
    (by cases side <;> decide)⟩

theorem memo_stored {m : Memo} (valid : m.Valid) :
    ∃ v, Wire.memoOf m.side v = (m.withDefaults drop).canonical ∧
      ∀ src, Reads (Wire.memoShape m.side).read src (Json.storedBytes drop (Wire.memoJson m)) v := by
  obtain ⟨items, itemsOf, itemsRead⟩ : ∃ vs,
      vs.map (Wire.memoItemOf m.side) = m.items.map MemoItem.canonical ∧
      ∀ src, Reads (readList (Wire.memoItemShape m.side).read) src
        (Json.storedBytes drop (.arr (m.items.map (Wire.memoItemJson m.side)))) vs :=
    list_stored (fun i mem => memoItem_stored omits m.side (valid.items i mem))
      (fun i _ => opens_obj drop _)
  obtain ⟨applications, applicationsOf, applicationsRead⟩ : ∃ vs,
      vs.map (Wire.memoApplicationOf m.side) =
        m.applications.map (fun a => (a.withDefaults drop).canonical) ∧
      ∀ src, Reads (readList (Wire.memoApplicationShape m.side).read) src
        (Json.storedBytes drop (.arr (m.applications.map (Wire.memoApplicationJson m.side)))) vs :=
    list_stored (fun a mem => memoApplication_stored omits m.side (valid.applications a mem))
      (fun a _ => opens_obj drop _)
  refine ⟨_, ?_, fun src => Decoded.readsStored
    (.kept (kept_of_not_mem omits (by decide)) (uuid_stored m.id).readsTo <|
     .kept (kept_of_not_mem omits (by decide)) (uuid_stored m.tenant).readsTo <|
     .kept (kept_of_not_mem omits (by decide)) (text_stored m.number).readsTo <|
     .kept (kept_of_not_mem omits (by cases m.side <;> decide))
       (uuid_stored m.returnDoc).readsTo <|
     .kept (kept_of_not_mem omits (by cases m.side <;> decide))
       (text_stored m.returnNumber).readsTo <|
     .kept (kept_of_not_mem omits (by cases m.side <;> decide)) (uuid_stored m.order).readsTo <|
     .kept (kept_of_not_mem omits (by cases m.side <;> decide))
       (text_stored m.orderNumber).readsTo <|
     .kept (kept_of_not_mem omits (by cases m.side <;> decide)) (uuid_stored m.party).readsTo <|
     .kept (kept_of_not_mem omits (by cases m.side <;> decide))
       (text_stored m.partyName).readsTo <|
     .kept (kept_of_not_mem omits (by cases m.side <;> decide))
       (optUuid_stored m.linkedEntry).readsTo <|
     .defaulted nofun rfl (fun _ => (itemsRead src).readsTo) <|
     .kept (kept_of_not_mem omits (by decide))
       (tagged_stored _ (Currency.variantOf_code m.currency)).readsTo <|
     .kept (kept_of_not_mem omits (by cases m.side <;> decide)) (decimal_stored m.total).readsTo <|
     .kept (kept_of_not_mem omits (by decide)) (decimal_stored m.applied).readsTo <|
     .kept (kept_of_not_mem omits (by decide)) (decimal_stored m.remaining).readsTo <|
     .kept (kept_of_not_mem omits (by decide))
       (tagged_stored _ (MemoStatus.variantOf_tag m.status)).readsTo <|
     .defaulted nofun rfl (fun _ => (applicationsRead src).readsTo) <|
     .kept (kept_of_not_mem omits (by decide)) (text_stored m.reason).readsTo <|
     .defaulted nofun rfl (fun _ => (text_stored m.remark).readsTo) <|
     .kept (kept_of_not_mem omits (by decide)) (optInstant_stored valid.appliedAt).readsTo <|
     .kept (kept_of_not_mem omits (by decide)) (optInstant_stored valid.voidedAt).readsTo <|
     .kept (kept_of_not_mem omits (by decide)) (optText_stored m.voidReason).readsTo <|
     .kept (kept_of_not_mem omits (by cases m.side <;> decide))
       (optInstant_stored valid.refundedAt).readsTo <|
     .kept (kept_of_not_mem omits (by decide)) (optText_stored m.refundMethod).readsTo <|
     .kept (kept_of_not_mem omits (by decide)) (count_stored valid.version) <|
     .kept (kept_of_not_mem omits (by decide)) (instant_stored valid.createdAt).readsTo <|
     .kept (kept_of_not_mem omits (by decide)) (instant_stored valid.updatedAt).readsTo .nil)
    (by cases m.side <;> decide)⟩
  -- the lines and the applications read back unless they were dropped
  cases itemsDropped : drop "items" <;> cases applicationsDropped : drop "applications" <;>
    simp only [Wire.memoOf, Memo.withDefaults, Memo.canonical, itemsDropped, applicationsDropped,
      itemsOf, applicationsOf, Bool.false_eq_true, ↓reduceIte, List.map_nil, List.map_map] <;> rfl

end Scan

namespace Memo

theorem load_prune {m : Memo} (valid : m.Valid) {drop : String → Bool}
    (omits : ∀ k, drop k = true → k ∈ omittableKeys) :
    (Console.memoDocument m.side).load (Json.prune drop ((Console.memoDocument m.side).store m)) =
      .ok (m.withDefaults drop).canonical := by
  obtain ⟨v, decoded, reads⟩ := Scan.memo_stored omits valid
  show ((Wire.memoShape m.side).decodeDocument (Json.prune drop (Wire.memoJson m))).map
    (Wire.memoOf m.side) = _
  rw [Scan.decodeDocument_prune reads, ← decoded]
  rfl

theorem load_store {m : Memo} (valid : m.Valid) :
    (Console.memoDocument m.side).load ((Console.memoDocument m.side).store m) =
      .ok m.canonical := by
  simpa only [Json.prune_keep, withDefaults_keep] using
    @load_prune m valid (fun _ => false) (fun _ dropped => absurd dropped Bool.false_ne_true)

end Memo

end Subledger
