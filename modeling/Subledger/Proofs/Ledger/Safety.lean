import Subledger.Proofs.Abort
import Subledger.Proofs.Ledger.Conservation

/-! # Ledger commands never abort

A receivable or payable computes its new outstanding amount by an unchecked difference, the
total less the new paid amount, and sums its active records by unchecked additions. Neither
aborts on an entry a run reached from the factory: the difference is of two amounts that are
not negative, so it stays within the decimal range however it rounds, and the active records
add up to the paid amount, itself a checked sum, or to nothing once the entry is closed.
-/

namespace Subledger

namespace Balance

variable {side : Side} {b : Balance} {f : Fresh} {total : Money}

theorem noAbortFrom_applyPayment {amount : Money} {voucher : Uuid} {remark : String}
    {at_ : Instant} (totalNonneg : 0 ≤ b.total.value) (paidNonneg : 0 ≤ b.paid.value) :
    (b.applyPayment side amount voucher remark at_).NoAbortFrom f := by
  simp only [applyPayment]
  simp
  intro _ value valid _ _ _
  obtain ⟨-, positive, rfl⟩ := Validate.positiveAmount_eq_ok.mp valid
  split
  · -- the new paid amount is a sum of two amounts that are not negative
    rename_i paid sum
    have positive : 0 < amount.amount.value := Decimal.isPositive_iff.mp positive
    obtain ⟨outstanding, difference⟩ :=
      Decimal.sub?_isSome_of_nonneg totalNonneg (Decimal.add?_nonneg paidNonneg positive.le sum)
    simp [difference]
  · simp

theorem noAbortFrom_reverseRecords (reason : String) (at_ : Instant)
    (records : List PaymentRecord) : (reverseRecords reason at_ records).NoAbortFrom f := by
  obtain ⟨_, _, -, run⟩ := reverseRecords_run reason at_ records f
  exact Cmd.noAbortFrom_of_run_eq_ok run

theorem noAbortFrom_reverse {reason : String} {at_ : Instant} :
    (b.reverse side reason at_).NoAbortFrom f := by
  simp [reverse, noAbortFrom_reverseRecords]

/-- Summing the active records of a balance with books does not abort: while payments stand
they add up to the paid amount, and a reversed or cancelled balance has no active record. -/
theorem Books.activeTotal_ok (books : b.Books total) : ∃ sum, b.activeTotal = .ok sum := by
  cases standing : b.status.isStanding
  · have noneActive : b.records.filter PaymentRecord.isActive = [] := by
      rw [List.filter_eq_nil_iff]
      intro r member
      cases status : b.status <;> simp [LedgerStatus.isStanding, status] at standing
      · simp [PaymentRecord.isActive, (books.when_reversed status).2.1 r member]
      · simp [(books.when_cancelled status).1] at member
    exact ⟨Decimal.zero, by simp [activeTotal, noneActive]⟩
  · exact ⟨b.paid, books.activeTotal_eq standing⟩

end Balance

namespace Entry

variable {e : Entry}

theorem noAbort_exec (reach : e.Reachable) (op : EntryOp) : (e.exec op).NoAbort := by
  obtain ⟨d, reach⟩ := reach
  obtain ⟨books, -⟩ := books_of_reachableFrom reach
  intro f
  cases op with
  | applyPayment amount voucher remark at_ =>
    simp [exec, applyPayment, announce, Cmd.noAbortFrom_bind,
      Balance.noAbortFrom_applyPayment books.total_pos.le books.paid_nonneg]
  | reverse reason at_ =>
    simp [exec, reverse, announce, Cmd.noAbortFrom_bind, Balance.noAbortFrom_reverse]
  | cancel reason at_ => simp [exec, cancel, announce]
  | setDueDate dueDate at_ => simp [exec]
  | setRemark remark at_ => simp [exec]

theorem activeTotal_ok (reach : e.Reachable) : ∃ sum, e.balance.activeTotal = .ok sum := by
  obtain ⟨d, reach⟩ := reach
  exact (books_of_reachableFrom reach).1.activeTotal_ok

end Entry

end Subledger
