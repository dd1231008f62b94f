import Subledger.Proofs.Ledger.Safety
import Subledger.Proofs.Booking.Step
import Subledger.Proofs.Voucher.Allocation
import Subledger.Proofs.Memo.Application

/-! # Which commands can abort

A command aborts only through an unchecked sum or difference that overflows. Receivables and
payables never do on a state a run reached from the factory, and neither does the sum of their
active records; expenses and incomes do no unchecked arithmetic at all. Vouchers and memos
recompute their allocated and applied amounts by unchecked sums, which are exact, and so
stay within their amount, only while that amount fits at the scale of every allocation or
application. Past that the difference rounds, and an allocation of all that is left can sum
past the largest decimal: `fractional_allocation_aborts`.
-/

namespace Subledger

/-- No command aborts on a state a run reached from the factory, for every kind of document:
receivables and payables (whose active records always sum), expenses and incomes on any
state, and vouchers and memos while their amount fits at the scale of every allocation or
application, the command's own included. -/
theorem never_aborts_of_reachable (e : Entry) (v : Voucher) (m : Memo) :
    (e.Reachable → (∀ op, (e.exec op).NoAbort) ∧ ∃ sum, e.balance.activeTotal = .ok sum) ∧
    (v.Reachable → v.FitsAllocations → ∀ op : VoucherOp, op.Fits v → (v.exec op).NoAbort) ∧
    (m.Reachable → m.FitsApplications → ∀ op : MemoOp, op.Fits m → (m.exec op).NoAbort) ∧
    (∀ (r : Expense) (op : ExpenseOp), (r.exec op).NoAbort) ∧
    (∀ (r : Income) (op : IncomeOp), (r.exec op).NoAbort) :=
  ⟨fun reach => ⟨Entry.noAbort_exec reach, Entry.activeTotal_ok reach⟩,
    fun reach fits => Voucher.noAbort_exec reach fits,
    fun reach fits => Memo.noAbort_exec reach fits,
    Expense.noAbort_exec, Income.noAbort_exec⟩

theorem largest_lt : mantissaLimit - 1 < mantissaLimit := by decide

theorem roundedRest_lt : mantissaLimit - 2 < mantissaLimit := by decide

/-- The largest amount a decimal holds, `79228162514264337593543950335` yuan. -/
def largestYuan : Money := ⟨⟨mantissaLimit - 1, 0, false, largest_lt, Nat.zero_le _⟩, .cny⟩

/-- What is left of `largestYuan` after one and a half yuan is taken from it, rounded half to
even from `79228162514264337593543950333.5`. -/
def roundedRest : Decimal := ⟨mantissaLimit - 2, 0, false, roundedRest_lt, Nat.zero_le _⟩

namespace Voucher

/-- A payment voucher for `largestYuan`. -/
def largestDraft : VoucherDraft where
  tenant := Uuid.generated 200
  number := "PV-1"
  party := Uuid.generated 201
  partyName := "Supplier Co"
  amount := largestYuan
  method := .bankTransfer
  date := ⟨19723, 0, 0⟩
  occurredAt := ⟨19723, 0, 0⟩

/-- The voucher the factory opens for `largestDraft` with the first fresh identifier. -/
def largestOpened : Voucher :=
  ⟨.purchases, Uuid.generated 0, largestDraft.tenant, largestDraft.number, largestDraft.party,
    largestDraft.partyName, .cny, largestYuan.amount, Decimal.zero, largestYuan.amount,
    .bankTransfer, "", .draft, largestDraft.date, [], "", none, none, none, none, none, 1,
    largestDraft.occurredAt, largestDraft.occurredAt⟩

/-- A payment voucher for a hundred yuan, to the supplier of `largestDraft`. -/
def hundredDraft : VoucherDraft := { largestDraft with amount := ⟨Decimal.hundred, .cny⟩ }

/-- The voucher for `hundredDraft` once confirmed and twelve and a half yuan allocated to a
payable. -/
def hundredAllocated : Voucher :=
  { largestOpened with
    amount := Decimal.hundred, allocated := Decimal.twelveFifty
    unallocated := Decimal.eightySevenFifty, status := .confirmed
    allocations :=
      [⟨Uuid.generated 3, Uuid.generated 0, Uuid.generated 203, "AP-1", Decimal.twelveFifty,
        ⟨19725, 0, 0⟩, ""⟩]
    confirmedAt := some ⟨19724, 0, 0⟩, confirmedBy := some (Uuid.generated 202), version := 3
    updatedAt := ⟨19725, 0, 0⟩ }

theorem hundredAllocated_reachable : hundredAllocated.Reachable :=
  ⟨hundredDraft, _, ⟨.purchases, Fresh.avoiding [], _, _, rfl⟩,
    (Relation.ReflTransGen.single
      ⟨.confirm (Uuid.generated 202) ⟨19724, 0, 0⟩, ⟨2, []⟩, _, rfl⟩).tail
      ⟨.allocate (Uuid.generated 203) "AP-1" ⟨Decimal.twelveFifty, .cny⟩ "" ⟨19725, 0, 0⟩,
        ⟨3, []⟩, _, rfl⟩⟩

end Voucher

namespace Memo

/-- A debit memo for `largestYuan`. -/
def largestDraft : MemoDraft where
  tenant := Uuid.generated 200
  number := "DM-1"
  returnDoc := Uuid.generated 205
  returnNumber := "PR-1"
  order := Uuid.generated 206
  orderNumber := "PO-1"
  party := Uuid.generated 201
  partyName := "Supplier Co"
  total := largestYuan
  reason := "Returned goods"
  occurredAt := ⟨19723, 0, 0⟩

/-- The memo the factory raises for `largestDraft` with the first fresh identifier. -/
def largestRaised : Memo :=
  ⟨.purchases, Uuid.generated 0, largestDraft.tenant, largestDraft.number, largestDraft.returnDoc,
    largestDraft.returnNumber, largestDraft.order, largestDraft.orderNumber, largestDraft.party,
    largestDraft.partyName, none, [], .cny, largestYuan.amount, Decimal.zero, largestYuan.amount,
    .pending, [], largestDraft.reason, "", none, none, none, none, none, 1,
    largestDraft.occurredAt, largestDraft.occurredAt⟩

/-- A debit memo for a hundred yuan, on the return of `largestDraft`. -/
def hundredDraft : MemoDraft := { largestDraft with total := ⟨Decimal.hundred, .cny⟩ }

/-- The memo for `hundredDraft` once twelve and a half yuan is applied to a payable. -/
def hundredApplied : Memo :=
  { largestRaised with
    total := Decimal.hundred, applied := Decimal.twelveFifty
    remaining := Decimal.eightySevenFifty, status := .partlyApplied
    applications :=
      [⟨Uuid.generated 2, Uuid.generated 0, Uuid.generated 203, Decimal.twelveFifty,
        ⟨19725, 0, 0⟩, ""⟩]
    version := 2, updatedAt := ⟨19725, 0, 0⟩ }

theorem hundredApplied_reachable : hundredApplied.Reachable :=
  ⟨hundredDraft, _, ⟨.purchases, Fresh.avoiding [], _, _, rfl⟩,
    .single ⟨.apply (Uuid.generated 203) ⟨Decimal.twelveFifty, .cny⟩ "" ⟨19725, 0, 0⟩, ⟨2, []⟩,
      _, rfl⟩⟩

end Memo

/-- Part way through their lives, a receivable paid twice, a voucher with one allocation and a
memo with one application, each for a hundred yuan, take any command without aborting, the
voucher and the memo any further twelve and a half yuan. -/
theorem never_aborts_after_commands :
    Entry.twicePaid.Reachable ∧ Voucher.hundredAllocated.Reachable ∧
      Memo.hundredApplied.Reachable ∧ Voucher.hundredAllocated.FitsAllocations ∧
      Memo.hundredApplied.FitsApplications ∧
      (∀ op, (Entry.twicePaid.exec op).NoAbort) ∧
      (∃ sum, Entry.twicePaid.balance.activeTotal = .ok sum) ∧
      (∀ target number remark at_, (Voucher.hundredAllocated.exec
        (.allocate target number ⟨Decimal.twelveFifty, .cny⟩ remark at_)).NoAbort) ∧
      (∀ target remark at_, (Memo.hundredApplied.exec
        (.apply target ⟨Decimal.twelveFifty, .cny⟩ remark at_)).NoAbort) := by
  have entry := Entry.twicePaid_reachable
  have voucher := Voucher.hundredAllocated_reachable
  have memo := Memo.hundredApplied_reachable
  have twoPlaces := Decimal.hundred_fitsAt_two
  have voucherFits : Voucher.hundredAllocated.FitsAllocations := by
    simpa [Voucher.FitsAllocations, Voucher.hundredAllocated] using twoPlaces
  have memoFits : Memo.hundredApplied.FitsApplications := by
    simpa [Memo.FitsApplications, Memo.hundredApplied] using twoPlaces
  obtain ⟨entrySafe, voucherSafe, memoSafe, -, -⟩ :=
    never_aborts_of_reachable Entry.twicePaid Voucher.hundredAllocated Memo.hundredApplied
  exact ⟨entry, voucher, memo, voucherFits, memoFits, (entrySafe entry).1, (entrySafe entry).2,
    fun _ _ _ _ => voucherSafe voucher voucherFits _ twoPlaces,
    fun _ _ _ => memoSafe memo memoFits _ twoPlaces⟩

namespace Voucher

/-- One and a half yuan. -/
def oneAndHalf : Money := ⟨Decimal.threeHalves, .cny⟩

/-- A fractional allocation breaks the tally of a voucher for the largest amount: after one and
a half yuan, what is left rounds up to `roundedRest`, and allocating all of it sums past the
largest decimal and aborts. -/
theorem fractional_allocation_aborts :
    ∃ v : Voucher, v.Reachable ∧ v.allocated = oneAndHalf.amount ∧ v.unallocated = roundedRest ∧
      (v.exec (.allocate (Uuid.generated 204) "AP-2" ⟨roundedRest, .cny⟩ "" ⟨19726, 0, 0⟩)).run
        ⟨3, []⟩ = .error (.overflowed "Addition overflowed") :=
  ⟨_, ⟨largestDraft, _, ⟨.purchases, Fresh.avoiding [], _, _, rfl⟩,
    (Relation.ReflTransGen.single
      ⟨.confirm (Uuid.generated 202) ⟨19724, 0, 0⟩, ⟨1, []⟩, _, rfl⟩).tail
      ⟨.allocate (Uuid.generated 203) "AP-1" oneAndHalf "" ⟨19725, 0, 0⟩, ⟨1, []⟩, _, rfl⟩⟩,
    rfl, rfl, rfl⟩

end Voucher

end Subledger
