import Subledger.Proofs.Wire.Ledger
import Subledger.Proofs.Wire.Voucher
import Subledger.Proofs.Wire.Memo
import Subledger.Proofs.Wire.Booking

/-! # Every stored state loads back

The eight kinds of state (receivables and payables, receipt and payment vouchers, credit and
debit memos, income and expense records) each load back from their stored form field by field,
nested lists in order. Decimals keep their digits and scale; only a zero loses a sign it may
carry (`canonical`). The states covered are those whose instants are real ones and whose
version fits 64 bits, as every state of the original is. A stored state may also leave out any of
the keys of `omittableKeys`, at any depth: each then reads back as its empty or default value
(`withDefaults`).
-/

namespace Subledger

/-- Loading a stored state gives it back, and leaving out keys that have defaults gives those
defaults, for every kind of state. -/
theorem stored_state_loads_back :
    (∀ e : Entry, e.Valid →
      (Console.entryDocument e.side).load ((Console.entryDocument e.side).store e) =
        .ok e.canonical ∧
      ∀ drop : String → Bool, (∀ k, drop k = true → k ∈ omittableKeys) →
        (Console.entryDocument e.side).load
          (Json.prune drop ((Console.entryDocument e.side).store e)) =
          .ok (e.withDefaults drop).canonical) ∧
    (∀ v : Voucher, v.Valid →
      (Console.voucherDocument v.side).load ((Console.voucherDocument v.side).store v) =
        .ok v.canonical ∧
      ∀ drop : String → Bool, (∀ k, drop k = true → k ∈ omittableKeys) →
        (Console.voucherDocument v.side).load
          (Json.prune drop ((Console.voucherDocument v.side).store v)) =
          .ok (v.withDefaults drop).canonical) ∧
    (∀ m : Memo, m.Valid →
      (Console.memoDocument m.side).load ((Console.memoDocument m.side).store m) =
        .ok m.canonical ∧
      ∀ drop : String → Bool, (∀ k, drop k = true → k ∈ omittableKeys) →
        (Console.memoDocument m.side).load
          (Json.prune drop ((Console.memoDocument m.side).store m)) =
          .ok (m.withDefaults drop).canonical) ∧
    (∀ r : Income, r.Valid →
      Console.incomeDocument.load (Console.incomeDocument.store r) = .ok r.canonical ∧
      ∀ drop : String → Bool, (∀ k, drop k = true → k ∈ omittableKeys) →
        Console.incomeDocument.load (Json.prune drop (Console.incomeDocument.store r)) =
          .ok (r.withDefaults drop).canonical) ∧
    (∀ r : Expense, r.Valid →
      Console.expenseDocument.load (Console.expenseDocument.store r) = .ok r.canonical ∧
      ∀ drop : String → Bool, (∀ k, drop k = true → k ∈ omittableKeys) →
        Console.expenseDocument.load (Json.prune drop (Console.expenseDocument.store r)) =
          .ok (r.withDefaults drop).canonical) :=
  ⟨fun _ valid => ⟨Entry.load_store valid, fun _ omits => Entry.load_prune valid omits⟩,
    fun _ valid => ⟨Voucher.load_store valid, fun _ omits => Voucher.load_prune valid omits⟩,
    fun _ valid => ⟨Memo.load_store valid, fun _ omits => Memo.load_prune valid omits⟩,
    fun _ valid => ⟨Income.load_store valid, fun _ omits => Income.load_prune valid omits⟩,
    fun _ valid => ⟨Expense.load_store valid, fun _ omits => Expense.load_prune valid omits⟩⟩

namespace Entry

/-- A receivable of a hundred yuan paid in full by one record with a remark. -/
def paidSample : Entry where
  side := .sales
  id := .nil
  tenant := .nil
  number := "AR-2016-001"
  party := .nil
  partyName := "Acme"
  sourceType := .order
  source := .nil
  sourceNumber := "SO-17"
  balance :=
    { owner := .nil, currency := .cny, total := .hundred, paid := .hundred, outstanding := .zero
      status := .paid, dueDate := some ⟨17196, 0, 0⟩
      records := [⟨.nil, .nil, .nil, .hundred, ⟨17166, 43200, 0⟩, "settled", .active, none, none⟩]
      remark := "net 30", paidAt := some ⟨17166, 43200, 0⟩, reversedAt := none
      reversalReason := none, cancelledAt := none, cancelReason := none }
  version := 2
  createdAt := ⟨17160, 3600, 0⟩
  updatedAt := ⟨17166, 43200, 0⟩

/-- Left out of the stored form: the payment records and every remark. -/
def recordsAndRemarks (k : String) : Bool := k == "payment_records" || k == "remark"

/-- The sample loads back without its records and remarks when they are left out. -/
theorem paidSample_loads_back :
    (Console.entryDocument .sales).load
        (Json.prune recordsAndRemarks ((Console.entryDocument .sales).store paidSample)) =
      .ok (paidSample.withDefaults recordsAndRemarks).canonical :=
  have valid : paidSample.Valid := by
    have real : ∀ t : Instant, t ∈ [⟨17196, 0, 0⟩, ⟨17166, 43200, 0⟩, ⟨17160, 3600, 0⟩] →
        t.Valid := by
      intro t listed
      simp only [List.mem_cons, List.not_mem_nil, or_false] at listed
      rcases listed with rfl | rfl | rfl <;>
        exact ⟨by decide, by decide, by decide, by decide, by decide⟩
    refine ⟨⟨?_, ?_, ?_, nofun, nofun⟩, by decide, real _ (by simp [paidSample]),
      real _ (by simp [paidSample])⟩
    · intro t due
      cases Option.some.inj due
      exact real _ (by simp)
    · intro r mem
      rw [List.mem_singleton.mp mem]
      exact ⟨real _ (by simp), nofun⟩
    · intro t paid
      cases Option.some.inj paid
      exact real _ (by simp)
  have omits : ∀ k, recordsAndRemarks k = true → k ∈ omittableKeys := by
    intro k dropped
    simp only [recordsAndRemarks, Bool.or_eq_true, beq_iff_eq] at dropped
    rcases dropped with rfl | rfl <;> decide
  (stored_state_loads_back.1 paidSample valid).2 recordsAndRemarks omits

end Entry

end Subledger
