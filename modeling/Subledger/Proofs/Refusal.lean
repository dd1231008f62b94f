import Subledger.Proofs.Safety
import Subledger.Proofs.Voucher.Lifecycle
import Subledger.Proofs.Memo.Lifecycle

/-! # Which check refuses a command

A command runs its checks in order and refuses with the code of the first that fails.
`Cmd.refusal` reads that code off a run, and `firstFailing` gives it for a list of checks
written as conditions on the values. A payment that passes every check still takes the total
less the new paid amount unchecked: on a state loaded by hand that leaves the range and the
payment aborts (`overdrawn_payment_aborts`).

Main statement: `refusals_follow_check_order`.
-/

namespace Subledger

namespace Cmd

variable {α β : Type} {f : Fresh}

/-- The code the command, run from `f`, refuses with; a run that goes through or aborts
refuses with none. -/
def refusal (x : Cmd α) (f : Fresh) : Option ErrorCode :=
  match x.run f with
  | .error (.refused e) => some e.code
  | _ => none

theorem refusal_of_run_ok {x : Cmd α} {a : α} {f' : Fresh} (success : x.run f = .ok (a, f')) :
    x.refusal f = none := by
  simp [refusal, success]

theorem refusal_bind_of_run_ok {x : Cmd α} {g : α → Cmd β} {a : α} {f' : Fresh}
    (success : x.run f = .ok (a, f')) : (x >>= g).refusal f = (g a).refusal f' := by
  simp [refusal, StateT.run_bind, success]

theorem refusal_bind_of_run_error {x : Cmd α} {g : α → Cmd β} {e : Failure}
    (failure : x.run f = .error e) : (x >>= g).refusal f = x.refusal f := by
  simp only [refusal, StateT.run_bind, failure]
  cases e <;> rfl

@[simp] theorem refusal_pure (a : α) : (pure a : Cmd α).refusal f = none := rfl

@[simp] theorem refusal_refuse_bind {e : DomainError} {g : α → Cmd β} :
    (refuse e >>= g).refusal f = some e.code := rfl

@[simp] theorem refusal_check_error_bind {e : DomainError} {g : α → Cmd β} :
    (check (.error e) >>= g).refusal f = some e.code := rfl

@[simp] theorem refusal_check_ok_bind {a : α} {g : α → Cmd β} :
    (check (.ok a) >>= g).refusal f = (g a).refusal f := rfl

@[simp] theorem refusal_freshId_bind {g : Uuid → Cmd β} :
    (freshId >>= g).refusal f = (g f.peek).refusal f.advance := rfl

@[simp] theorem refusal_map {x : Cmd α} {g : α → β} : (g <$> x).refusal f = x.refusal f := by
  simp only [refusal, StateT.run_map]
  cases x.run f with
  | ok p => rfl
  | error e => cases e <;> rfl

@[simp] theorem refusal_ite {c : Prop} [Decidable c] {x y : Cmd α} :
    (if c then x else y).refusal f = if c then x.refusal f else y.refusal f := by
  split <;> rfl

@[simp] theorem refusal_plus {a b : Decimal} : (plus a b).refusal f = none := by
  unfold plus
  split <;> rfl

@[simp] theorem refusal_minus {a b : Decimal} : (minus a b).refusal f = none := by
  unfold minus
  split <;> rfl

/-- After an unchecked sum the command refuses as what follows the sum does; an overflow
aborts, which is no refusal. -/
@[simp] theorem refusal_plus_bind {a b : Decimal} {g : Decimal → Cmd β} :
    (plus a b >>= g).refusal f = (Decimal.add? a b).bind fun c => (g c).refusal f := by
  cases sum : Decimal.add? a b with
  | none =>
    rw [refusal_bind_of_run_error (run_plus_overflow sum)]
    simp [refusal, run_plus_overflow sum]
  | some c => exact refusal_bind_of_run_ok (run_plus sum)

@[simp] theorem refusal_minus_bind {a b : Decimal} {g : Decimal → Cmd β} :
    (minus a b >>= g).refusal f = (Decimal.sub? a b).bind fun c => (g c).refusal f := by
  cases difference : Decimal.sub? a b with
  | none =>
    rw [refusal_bind_of_run_error (run_minus_overflow difference)]
    simp [refusal, run_minus_overflow difference]
  | some c => exact refusal_bind_of_run_ok (run_minus difference)

end Cmd

@[simp] theorem Envelope.refusal_wrap {E : Type} {f : Fresh} (tenant aggregate : Uuid)
    (aggregateType : String) (sequence : Nat) (eventType : String) (occurredAt : Instant)
    (payload : E) :
    (wrap tenant aggregate aggregateType sequence eventType occurredAt payload).refusal f = none :=
  rfl

/-- The code of the first failing check, each check given as whether it fails and the code it
refuses with. -/
def firstFailing (checks : List (Bool × ErrorCode)) : Option ErrorCode :=
  (checks.find? (·.1)).map (·.2)

@[simp] theorem firstFailing_nil : firstFailing [] = none := rfl

@[simp] theorem firstFailing_cons (fails : Bool) (code : ErrorCode)
    (rest : List (Bool × ErrorCode)) :
    firstFailing ((fails, code) :: rest) = if fails then some code else firstFailing rest := by
  cases fails <;> simp [firstFailing]

theorem firstFailing_eq_none_iff {checks : List (Bool × ErrorCode)} :
    firstFailing checks = none ↔ ∀ check ∈ checks, check.1 = false := by
  simp [firstFailing, List.find?_eq_none]

/-! ## The open states -/

theorem LedgerStatus.isTerminal_iff (s : LedgerStatus) :
    s.isTerminal = true ↔ s ≠ .pending ∧ s ≠ .partlyPaid := by
  cases s <;> simp [LedgerStatus.isTerminal]

theorem VoucherStatus.canAllocate_iff (s : VoucherStatus) :
    s.canAllocate = true ↔ s = .confirmed ∨ s = .allocated := by
  cases s <;> simp [VoucherStatus.canAllocate]

theorem MemoStatus.isTerminal_iff (s : MemoStatus) :
    s.isTerminal = true ↔ s ≠ .pending ∧ s ≠ .partlyApplied := by
  cases s <;> simp [MemoStatus.isTerminal]

/-! ## Payments -/

namespace Balance

/-- The checks of a payment, in the order the payment runs them. -/
def paymentChecks (b : Balance) (amount : Money) (voucher : Uuid) : List (Bool × ErrorCode) :=
  [(decide (b.status ≠ .pending ∧ b.status ≠ .partlyPaid), .invalidState),
    (amount.currency != b.currency, .currencyMismatch),
    (decide (amount.amount.value ≤ 0), .invalidAmount),
    (decide (b.outstanding.value < amount.amount.value), .exceedsOutstanding),
    (voucher.isNil, .invalidVoucher),
    ((b.paid.add? amount.amount).isNone, .invalidAmount)]

theorem refusal_applyPayment (side : Side) (b : Balance) (amount : Money) (voucher : Uuid)
    (remark : String) (at_ : Instant) (f : Fresh) :
    (b.applyPayment side amount voucher remark at_).refusal f =
      firstFailing (b.paymentChecks amount voucher) := by
  -- one case for each check the payment runs, in its order; the last, where every check
  -- passes, ends in unchecked arithmetic, which refuses with nothing
  by_cases closed : b.status ≠ .pending ∧ b.status ≠ .partlyPaid
  · have terminal := (LedgerStatus.isTerminal_iff _).mpr closed
    simp [applyPayment, paymentChecks, closed, terminal, DomainError.invalidState,
      DomainError.code]
  have running : b.status.isTerminal = false :=
    Bool.eq_false_iff.mpr fun terminal => closed ((LedgerStatus.isTerminal_iff _).mp terminal)
  by_cases same : amount.currency = b.currency
  swap
  · simp [applyPayment, paymentChecks, closed, running, same, Validate.positiveAmount, bne,
      DomainError.code]
  have sameCurrency : (amount.currency != b.currency) = false := by simp [bne, same]
  by_cases nonPositive : amount.amount.value ≤ 0
  · have notPositive : amount.isPositive = false :=
      Bool.eq_false_iff.mpr fun p => not_lt.mpr nonPositive (Decimal.isPositive_iff.mp p)
    simp [applyPayment, paymentChecks, closed, running, sameCurrency, Validate.positiveAmount,
      DomainError.code, nonPositive, notPositive]
  have valid : Validate.positiveAmount amount b.currency "Payment amount" = .ok amount.amount :=
    Validate.positiveAmount_eq_ok.mpr
      ⟨same, Decimal.isPositive_iff.mpr (lt_of_not_ge nonPositive), rfl⟩
  by_cases exceeds : b.outstanding.value < amount.amount.value
  · simp [applyPayment, paymentChecks, closed, running, sameCurrency, valid, nonPositive, exceeds,
      Decimal.lt_iff.mpr exceeds, DomainError.code]
  have within : b.outstanding.lt amount.amount = false :=
    Bool.eq_false_iff.mpr fun l => exceeds (Decimal.lt_iff.mp l)
  cases nil : voucher.isNil
  case true =>
    simp [applyPayment, paymentChecks, closed, running, sameCurrency, valid, nonPositive, exceeds,
      within, nil, Validate.present, DomainError.code]
  cases sum : b.paid.add? amount.amount with
  | none =>
    simp [applyPayment, paymentChecks, closed, running, sameCurrency, valid, nonPositive, exceeds,
      within, nil, sum, Validate.present, DomainError.code]
  | some paid =>
    simp [applyPayment, paymentChecks, closed, running, sameCurrency, valid, nonPositive, exceeds,
      within, nil, sum, Validate.present]

/-- The checks of a payment that all pass, as facts about the balance and the payment. -/
theorem paymentChecks_pass {b : Balance} {amount : Money} {voucher : Uuid}
    (passes : firstFailing (b.paymentChecks amount voucher) = none) :
    b.status.isTerminal = false ∧ amount.currency = b.currency ∧ 0 < amount.amount.value ∧
      amount.amount.value ≤ b.outstanding.value ∧ voucher.isNil = false ∧
      (b.paid.add? amount.amount).isSome = true := by
  rw [firstFailing_eq_none_iff] at passes
  simp [paymentChecks, bne] at passes
  obtain ⟨status, same, positive, within, nil, summable⟩ := passes
  have running : b.status.isTerminal = false :=
    Bool.eq_false_iff.mpr fun terminal => by
      have := (LedgerStatus.isTerminal_iff _).mp terminal
      tauto
  exact ⟨running, same, positive, within, nil, summable⟩

end Balance

namespace Entry

theorem refusal_applyPayment (e : Entry) (amount : Money) (voucher : Uuid) (remark : String)
    (at_ : Instant) (f : Fresh) :
    (e.applyPayment amount voucher remark at_).refusal f =
      (e.balance.applyPayment e.side amount voucher remark at_).refusal f := by
  unfold applyPayment
  cases run : (e.balance.applyPayment e.side amount voucher remark at_).run f with
  | ok result =>
    obtain ⟨⟨b', record, settled⟩, f'⟩ := result
    rw [Cmd.refusal_bind_of_run_ok run, Cmd.refusal_of_run_ok run]
    simp [announce]
  | error failure => rw [Cmd.refusal_bind_of_run_error run]

/-- What a payment that passes its checks does: with `paid` the paid amount plus the payment,
either the total less `paid` is in range and the payment goes through, appending one active
record of the payment and setting the paid and outstanding amounts, or it is not and the
payment aborts. -/
def PaysOrAborts (e : Entry) (amount : Money) (voucher : Uuid) (remark : String) (at_ : Instant)
    (f : Fresh) : Prop :=
  ∃ paid, e.balance.paid.add? amount.amount = some paid ∧
    ((∃ outstanding e' env f', e.balance.total.sub? paid = some outstanding ∧
        (e.applyPayment amount voucher remark at_).run f = .ok ((e', env), f') ∧
        e'.balance.records = e.balance.records ++
          [PaymentRecord.new f.peek e.balance.owner voucher amount.amount remark at_] ∧
        e'.balance.paid = paid ∧ e'.balance.outstanding = outstanding) ∨
      (e.balance.total.sub? paid = none ∧
        (e.applyPayment amount voucher remark at_).run f =
          .error (.overflowed "Subtraction overflowed")))

theorem paysOrAborts_of_checks_pass {e : Entry} {amount : Money} {voucher : Uuid}
    (remark : String) (at_ : Instant) (f : Fresh)
    (passes : firstFailing (e.balance.paymentChecks amount voucher) = none) :
    e.PaysOrAborts amount voucher remark at_ f := by
  obtain ⟨running, same, positive, within, nil, summable⟩ := Balance.paymentChecks_pass passes
  obtain ⟨paid, sum⟩ := Option.isSome_iff_exists.mp summable
  have valid :
      Validate.positiveAmount amount e.balance.currency "Payment amount" = .ok amount.amount :=
    Validate.positiveAmount_eq_ok.mpr ⟨same, Decimal.isPositive_iff.mpr positive, rfl⟩
  have below : e.balance.outstanding.lt amount.amount = false :=
    Bool.eq_false_iff.mpr fun l => not_lt.mpr within (Decimal.lt_iff.mp l)
  refine ⟨paid, sum, ?_⟩
  -- past the checks only the unchecked difference decides between the two outcomes
  cases difference : e.balance.total.sub? paid with
  | none =>
    right
    simp [applyPayment, Balance.applyPayment, running, valid, below, nil, sum, Validate.present,
      Cmd.run_minus_overflow difference]
  | some outstanding =>
    left
    simp [applyPayment, Balance.applyPayment, running, valid, below, nil, sum, Validate.present,
      Cmd.run_minus difference, announce, touch]

end Entry

/-! ## Allocations and applications -/

namespace Voucher

/-- The checks of an allocation, in the order the allocation runs them. -/
def allocationChecks (v : Voucher) (target : Uuid) (targetNumber : String) (amount : Money) :
    List (Bool × ErrorCode) :=
  [(decide (v.status ≠ .confirmed ∧ v.status ≠ .allocated), .invalidState),
    (target.isNil, v.side.pick .invalidReceivable .invalidPayable),
    (targetNumber.isEmpty, v.side.pick .invalidReceivableNumber .invalidPayableNumber),
    (amount.currency != v.currency, .currencyMismatch),
    (decide (amount.amount.value ≤ 0), .invalidAmount),
    (decide (v.unallocated.value < amount.amount.value), .exceedsUnallocated),
    ((v.allocationFor? target).isSome, .alreadyAllocated)]

theorem refusal_allocate (v : Voucher) (target : Uuid) (targetNumber : String) (amount : Money)
    (remark : String) (at_ : Instant) (f : Fresh) :
    (v.allocate target targetNumber amount remark at_).refusal f =
      firstFailing (v.allocationChecks target targetNumber amount) := by
  by_cases closed : v.status ≠ .confirmed ∧ v.status ≠ .allocated
  · have stopped : v.status.canAllocate = false :=
      Bool.eq_false_iff.mpr fun open_ => by
        rcases (VoucherStatus.canAllocate_iff _).mp open_ with h | h <;> simp_all
    simp [allocate, allocationChecks, closed, stopped, DomainError.invalidState, DomainError.code]
  have open_ : v.status.canAllocate = true := by
    rw [VoucherStatus.canAllocate_iff]
    tauto
  cases nil : target.isNil
  case true =>
    simp [allocate, allocationChecks, closed, open_, nil, Validate.present, DomainError.code]
  cases empty : targetNumber.isEmpty
  case true =>
    simp [allocate, allocationChecks, closed, open_, nil, empty, Validate.present,
      Validate.nonEmpty, DomainError.code]
  by_cases same : amount.currency = v.currency
  swap
  · simp [allocate, allocationChecks, closed, open_, nil, empty, same, Validate.present,
      Validate.nonEmpty, Validate.positiveAmount, bne, DomainError.code]
  have sameCurrency : (amount.currency != v.currency) = false := by simp [bne, same]
  by_cases nonPositive : amount.amount.value ≤ 0
  · have notPositive : amount.isPositive = false :=
      Bool.eq_false_iff.mpr fun p => not_lt.mpr nonPositive (Decimal.isPositive_iff.mp p)
    simp [allocate, allocationChecks, closed, open_, nil, empty, sameCurrency, Validate.present,
      Validate.nonEmpty, Validate.positiveAmount, nonPositive, notPositive, DomainError.code]
  have valid : Validate.positiveAmount amount v.currency "Allocation amount" = .ok amount.amount :=
    Validate.positiveAmount_eq_ok.mpr
      ⟨same, Decimal.isPositive_iff.mpr (lt_of_not_ge nonPositive), rfl⟩
  by_cases exceeds : v.unallocated.value < amount.amount.value
  · simp [allocate, allocationChecks, closed, open_, nil, empty, sameCurrency, Validate.present,
      Validate.nonEmpty, valid, nonPositive, exceeds, Decimal.lt_iff.mpr exceeds, DomainError.code]
  have within : v.unallocated.lt amount.amount = false :=
    Bool.eq_false_iff.mpr fun l => exceeds (Decimal.lt_iff.mp l)
  cases again : (v.allocationFor? target).isSome
  case true =>
    simp [allocate, allocationChecks, closed, open_, nil, empty, sameCurrency, Validate.present,
      Validate.nonEmpty, valid, nonPositive, exceeds, within, again, DomainError.code]
  simp [allocate, allocationChecks, closed, open_, nil, empty, sameCurrency, Validate.present,
    Validate.nonEmpty, valid, nonPositive, exceeds, within, again, announce]

end Voucher

namespace Memo

/-- The checks of an application, in the order the application runs them. -/
def applicationChecks (m : Memo) (target : Uuid) (amount : Money) : List (Bool × ErrorCode) :=
  [(decide (m.status ≠ .pending ∧ m.status ≠ .partlyApplied), .invalidState),
    (target.isNil, m.side.pick .invalidReceivable .invalidPayable),
    (amount.currency != m.currency, .currencyMismatch),
    (decide (amount.amount.value ≤ 0), .invalidAmount),
    (decide (m.remaining.value < amount.amount.value), .exceedsRemaining)]

theorem refusal_apply (m : Memo) (target : Uuid) (amount : Money) (remark : String)
    (at_ : Instant) (f : Fresh) :
    (m.apply target amount remark at_).refusal f =
      firstFailing (m.applicationChecks target amount) := by
  by_cases closed : m.status ≠ .pending ∧ m.status ≠ .partlyApplied
  · have terminal := (MemoStatus.isTerminal_iff _).mpr closed
    simp [apply, applicationChecks, closed, terminal, DomainError.invalidState, DomainError.code]
  have open_ : m.status.isTerminal = false :=
    Bool.eq_false_iff.mpr fun terminal => closed ((MemoStatus.isTerminal_iff _).mp terminal)
  cases nil : target.isNil
  case true =>
    simp [apply, applicationChecks, closed, open_, nil, Validate.present, DomainError.code]
  by_cases same : amount.currency = m.currency
  swap
  · simp [apply, applicationChecks, closed, open_, nil, same, Validate.present,
      Validate.positiveAmount, bne, DomainError.code]
  have sameCurrency : (amount.currency != m.currency) = false := by simp [bne, same]
  by_cases nonPositive : amount.amount.value ≤ 0
  · have notPositive : amount.isPositive = false :=
      Bool.eq_false_iff.mpr fun p => not_lt.mpr nonPositive (Decimal.isPositive_iff.mp p)
    simp [apply, applicationChecks, closed, open_, nil, sameCurrency, Validate.present,
      Validate.positiveAmount, nonPositive, notPositive, DomainError.code]
  have valid : Validate.positiveAmount amount m.currency "Application amount" = .ok amount.amount :=
    Validate.positiveAmount_eq_ok.mpr
      ⟨same, Decimal.isPositive_iff.mpr (lt_of_not_ge nonPositive), rfl⟩
  by_cases exceeds : m.remaining.value < amount.amount.value
  · simp [apply, applicationChecks, closed, open_, nil, sameCurrency, Validate.present, valid,
      nonPositive, exceeds, Decimal.lt_iff.mpr exceeds, DomainError.code]
  have within : m.remaining.lt amount.amount = false :=
    Bool.eq_false_iff.mpr fun l => exceeds (Decimal.lt_iff.mp l)
  simp [apply, applicationChecks, closed, open_, nil, sameCurrency, Validate.present, valid,
    nonPositive, exceeds, within, announce]

end Memo

/-! ## The order of the checks -/

/-- Payments, allocations and applications refuse with the code of their first failing check,
for every state and every request. A payment that passes all its checks goes through, with one
new active record and the paid and outstanding amounts it sets, unless the total less the new
paid amount leaves the decimal range, where it aborts. -/
theorem refusals_follow_check_order (e : Entry) (v : Voucher) (m : Memo) (amount : Money)
    (voucher target : Uuid) (targetNumber remark : String) (at_ : Instant) (f : Fresh) :
    (e.applyPayment amount voucher remark at_).refusal f =
        firstFailing (e.balance.paymentChecks amount voucher) ∧
      (firstFailing (e.balance.paymentChecks amount voucher) = none →
        e.PaysOrAborts amount voucher remark at_ f) ∧
      (v.allocate target targetNumber amount remark at_).refusal f =
        firstFailing (v.allocationChecks target targetNumber amount) ∧
      (m.apply target amount remark at_).refusal f =
        firstFailing (m.applicationChecks target amount) := by
  refine ⟨?_, Entry.paysOrAborts_of_checks_pass remark at_ f, v.refusal_allocate target
    targetNumber amount remark at_ f, m.refusal_apply target amount remark at_ f⟩
  rw [e.refusal_applyPayment, Balance.refusal_applyPayment]

theorem halfYuan_passes_wideOpened :
    firstFailing (Entry.wideOpened.balance.paymentChecks Entry.halfYuan (Uuid.generated 103)) =
      none := by
  decide +kernel

theorem refusals_follow_check_order_of_wideOpened :
    firstFailing (Entry.wideOpened.balance.paymentChecks Entry.halfYuan (Uuid.generated 103)) =
        none ∧
      Entry.wideOpened.PaysOrAborts Entry.halfYuan (Uuid.generated 103) "" ⟨19724, 0, 0⟩
        (Fresh.avoiding []) :=
  ⟨halfYuan_passes_wideOpened,
    (refusals_follow_check_order Entry.wideOpened Voucher.largestOpened Memo.largestRaised
      Entry.halfYuan (Uuid.generated 103) (Uuid.generated 104) "AP-1" "" ⟨19724, 0, 0⟩
      (Fresh.avoiding [])).2.1 halfYuan_passes_wideOpened⟩

/-- A receivable as loaded by hand, never built by a command: its total is the most negative
decimal while the largest one is outstanding. -/
def overdrawn : Entry :=
  { Entry.wideOpened with
    balance := { Entry.wideOpened.balance with
      total := ⟨mantissaLimit - 1, 0, true, largest_lt, Nat.zero_le _⟩
      outstanding := largestYuan.amount } }

/-- A payment of all that `overdrawn` shows as outstanding passes every check and still does
not go through: the total less the paid amount is below the decimal range, and the payment
aborts. -/
theorem overdrawn_payment_aborts :
    firstFailing (overdrawn.balance.paymentChecks largestYuan (Uuid.generated 103)) = none ∧
      (overdrawn.applyPayment largestYuan (Uuid.generated 103) "" ⟨19724, 0, 0⟩).run
        (Fresh.avoiding []) = .error (.overflowed "Subtraction overflowed") :=
  ⟨by decide +kernel, rfl⟩

end Subledger
