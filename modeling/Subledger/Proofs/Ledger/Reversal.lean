import Subledger.Proofs.Ledger.Conservation

/-! # Reversal accounting

A reversal of an open receivable or payable always goes through once a reason is given. It
reports what was paid as the refund and what was outstanding as the waiver, writes the
outstanding amount off, and stamps exactly the payment records that were still active; records
an earlier reversal stamped keep their stamp. One compensating record is drawn per stamped
record, and the audit lines of the event list the stamped records in order, each beside its
compensation. Main statement: `Entry.reverse_accounts`.
-/

namespace Subledger

namespace Balance

section Audit

variable {at_ : Instant} {records : List PaymentRecord} {compensations : List Uuid}

theorem length_auditLines
    (length : compensations.length = (records.filter PaymentRecord.isActive).length) :
    (auditLines at_ records compensations).length = compensations.length := by
  simp [auditLines, length]

theorem auditLines_compensations
    (length : compensations.length = (records.filter PaymentRecord.isActive).length) :
    (auditLines at_ records compensations).map (·.compensation) = compensations :=
  calc (auditLines at_ records compensations).map (·.compensation)
      = ((records.filter PaymentRecord.isActive).zip compensations).map Prod.snd := by
        simp [auditLines, List.zip_eq_zipWith]
    _ = compensations := List.map_snd_zip length.le

end Audit

theorem reversedRecords_eq_map (reason : String) (at_ : Instant) (records : List PaymentRecord) :
    reversedRecords reason at_ records = records.map fun r =>
      if r.status = .active then
        { r with status := .reversed, reversedAt := some at_, reversalReason := some reason }
      else r := by
  simp [reversedRecords, PaymentRecord.isActive, PaymentRecord.stamp]

end Balance

namespace Entry

/-- What a reversal of `e` for `reason` at `at_` accounts for, given the entry `e'` it leaves,
its `result` and its event `env`. -/
structure ReversalAccount (e : Entry) (reason : String) (at_ : Instant) (e' : Entry)
    (result : ReversalResult) (env : Envelope EntryEvent) : Prop where
  /-- What was paid is refunded and what was outstanding is waived. -/
  refund : result.refundAmount = e.balance.paidMoney
  waiver : result.outstandingWaived = e.balance.outstandingMoney
  refundRequired : result.refundRequired = true ↔ 0 < e.balance.paid.value
  /-- The event gives the state before and one audit line per active record, in record order,
  each with the compensation drawn for it. -/
  event : ∃ audit, env.payload = .reversed e' e.balance.status result reason audit at_ ∧
    audit = List.zipWith (fun r c => ⟨r.id, r.voucher, r.amount, r.appliedAt, at_, c⟩)
      (e.balance.records.filter PaymentRecord.isActive) result.compensations ∧
    result.reversedCount = result.compensations.length ∧
    result.compensations.length = audit.length ∧
    audit.length = (e.balance.records.filter PaymentRecord.isActive).length
  /-- The paid amount stays as history; the rest is written off. -/
  paid : e'.balance.paid = e.balance.paid
  outstanding : e'.balance.outstanding = Decimal.zero
  status : e'.balance.status = .reversed
  reversedAt : e'.balance.reversedAt = some at_
  reversalReason : e'.balance.reversalReason = some reason
  /-- Exactly the active records are stamped; no other field of any record changes. -/
  records : e'.balance.records = e.balance.records.map fun r =>
    if r.status = .active then
      { r with status := .reversed, reversedAt := some at_, reversalReason := some reason }
    else r
  resultRecords : result.records = e'.balance.records

variable {e e' : Entry} {reason : String} {at_ : Instant} {result : ReversalResult}
  {env : Envelope EntryEvent} {f f' : Fresh}

theorem reversalAccount_of_eq_ok
    (success : (e.reverse reason at_).run f = .ok ((e', result, env), f')) :
    e.ReversalAccount reason at_ e' result env := by
  obtain ⟨b', previous, audit, f₁, reversed, rfl, payload⟩ := reverse_eq_ok success
  obtain ⟨-, -, compensations, length, rfl, rfl, rfl, rfl⟩ := Balance.reverse_eq_ok reversed
  have lines : (Balance.auditLines at_ e.balance.records compensations).length =
      compensations.length := Balance.length_auditLines length
  have drawn : (Balance.auditLines at_ e.balance.records compensations).map (·.compensation) =
      compensations := Balance.auditLines_compensations length
  refine
    { refund := rfl
      waiver := rfl
      refundRequired := Decimal.isPositive_iff
      event := ⟨_, payload, ?_, ?_, ?_, ?_⟩
      paid := rfl
      outstanding := rfl
      status := rfl
      reversedAt := rfl
      reversalReason := rfl
      records := Balance.reversedRecords_eq_map reason at_ e.balance.records
      resultRecords := rfl }
  · simp only [Balance.reversalResult, drawn]
    rfl
  · simp [Balance.reversalResult, drawn, lines]
  · simp [Balance.reversalResult, drawn, lines]
  · rw [lines, length]

theorem reverse_succeeds (at_ : Instant) (open_ : e.balance.status.isTerminal = false)
    (given : reason.isEmpty = false) (f : Fresh) :
    ∃ e' result env f', (e.reverse reason at_).run f = .ok ((e', result, env), f') := by
  obtain ⟨compensations, f₁, -, reversed⟩ := Balance.reverse_run e.side at_ open_ given f
  cases run : (e.reverse reason at_).run f with
  | error failure =>
    unfold reverse at run
    simp [reversed, announce] at run
  | ok outcome => exact ⟨outcome.1.1, outcome.1.2.1, outcome.1.2.2, outcome.2, rfl⟩

/-- Reversing a pending or partial entry for a reason always goes through and accounts for it:
the refund is what was paid, the waiver what was outstanding, exactly the active records are
stamped, and the event lists them in order with one compensation each. -/
theorem reverse_accounts (open_ : e.balance.status = .pending ∨ e.balance.status = .partlyPaid)
    (given : reason ≠ "") (f : Fresh) :
    ∃ e' result env f', (e.reverse reason at_).run f = .ok ((e', result, env), f') ∧
      e.ReversalAccount reason at_ e' result env := by
  have notClosed : e.balance.status.isTerminal = false := by
    rcases open_ with status | status <;> simp [status, LedgerStatus.isTerminal]
  have nonEmpty : reason.isEmpty = false := by simpa [String.isEmpty_iff] using given
  obtain ⟨e', result, env, f', run⟩ := reverse_succeeds at_ notClosed nonEmpty f
  exact ⟨e', result, env, f', run, reversalAccount_of_eq_ok run⟩

/-- A partial entry as loaded from storage: one payment an earlier reversal stamped, and one
still active. -/
def reloaded : Entry :=
  { wideOpened with
    balance := { wideOpened.balance with
      status := .partlyPaid
      paid := halfYuan.amount
      outstanding := Decimal.octillion
      records :=
        [{ PaymentRecord.new (Uuid.generated 1) (Uuid.generated 0) (Uuid.generated 103)
              halfYuan.amount "" ⟨19724, 0, 0⟩ with
            status := .reversed, reversedAt := some ⟨19725, 0, 0⟩,
            reversalReason := some "duplicate" },
          PaymentRecord.new (Uuid.generated 2) (Uuid.generated 0) (Uuid.generated 104)
            halfYuan.amount "" ⟨19726, 0, 0⟩] } }

theorem reverse_accounts_of_reloaded :
    (reloaded.balance.status = .pending ∨ reloaded.balance.status = .partlyPaid) ∧
      "dispute" ≠ "" ∧
      ∃ e' result env f', (reloaded.reverse "dispute" ⟨19727, 0, 0⟩).run (Fresh.avoiding []) =
          .ok ((e', result, env), f') ∧
        reloaded.ReversalAccount "dispute" ⟨19727, 0, 0⟩ e' result env :=
  ⟨.inr rfl, by decide, reverse_accounts (.inr rfl) (by decide) _⟩

end Entry

end Subledger
