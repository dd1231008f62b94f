import Mathlib.Logic.Relation
import Subledger.Proofs.Abort
import Subledger.Proofs.Ledger.Step
import Subledger.Voucher.Basic

/-! # Commands on vouchers

The commands of a receipt or payment voucher with their arguments, the vouchers a run of them
reaches from the factory, and for each command what it checked and what it left when it went
through. Proofs about vouchers take runs apart with these and never unfold a command.
-/

namespace Subledger

/-- A command on a voucher, with its arguments. -/
inductive VoucherOp where
  | confirm (user : Uuid) (at_ : Instant)
  | allocate (target : Uuid) (targetNumber : String) (amount : Money) (remark : String)
      (at_ : Instant)
  | cancel (user : Uuid) (reason : String) (at_ : Instant)
  | setReference (reference : String) (at_ : Instant)
  | setRemark (remark : String) (at_ : Instant)

namespace Voucher

/-- Runs a command on a voucher, keeping the voucher it leaves. -/
def exec (v : Voucher) : VoucherOp → Cmd Voucher
  | .confirm user at_ => Prod.fst <$> v.confirm user at_
  | .allocate target targetNumber amount remark at_ =>
    Prod.fst <$> v.allocate target targetNumber amount remark at_
  | .cancel user reason at_ => Prod.fst <$> v.cancel user reason at_
  | .setReference reference at_ => Cmd.check (v.setReference reference at_)
  | .setRemark remark at_ => Cmd.check (v.setRemark remark at_)

/-- A voucher the factory opened for a draft. -/
def OpenedFrom (d : VoucherDraft) (v : Voucher) : Prop :=
  ∃ side f env f', (create side d).run f = .ok ((v, env), f')

/-- One successful command, with any arguments and any source of fresh identifiers. -/
def Step (v v' : Voucher) : Prop := ∃ op f f', (v.exec op).run f = .ok (v', f')

/-- The vouchers a run of commands reaches from one the factory opened. -/
def Reachable (v : Voucher) : Prop :=
  ∃ d v₀, v₀.OpenedFrom d ∧ Relation.ReflTransGen Step v₀ v

variable {v v' : Voucher} {f f' : Fresh}

@[simp] theorem touch_amount (v : Voucher) (at_ : Instant) : (v.touch at_).amount = v.amount :=
  rfl

@[simp] theorem touch_allocated (v : Voucher) (at_ : Instant) :
    (v.touch at_).allocated = v.allocated := rfl

@[simp] theorem touch_unallocated (v : Voucher) (at_ : Instant) :
    (v.touch at_).unallocated = v.unallocated := rfl

@[simp] theorem touch_allocations (v : Voucher) (at_ : Instant) :
    (v.touch at_).allocations = v.allocations := rfl

@[simp] theorem touch_status (v : Voucher) (at_ : Instant) : (v.touch at_).status = v.status :=
  rfl

@[simp] theorem touch_id (v : Voucher) (at_ : Instant) : (v.touch at_).id = v.id := rfl

@[simp] theorem touch_currency (v : Voucher) (at_ : Instant) :
    (v.touch at_).currency = v.currency := rfl

theorem create_eq_ok {side : Side} {d : VoucherDraft} {env : Envelope VoucherEvent}
    (success : (create side d).run f = .ok ((v, env), f')) :
    d.amount.isPositive = true ∧ v.side = side ∧ v.currency = d.amount.currency ∧
      v.amount = d.amount.amount ∧ v.allocated = Decimal.zero ∧
      v.unallocated = d.amount.amount ∧ v.allocations = [] ∧ v.status = .draft ∧
      v.confirmedAt = none ∧ v.confirmedBy = none := by
  unfold create at success
  obtain ⟨-, -, success⟩ := Cmd.run_check_bind_eq_ok.mp success
  obtain ⟨-, -, success⟩ := Cmd.run_check_bind_eq_ok.mp success
  obtain ⟨-, -, success⟩ := Cmd.run_check_bind_eq_ok.mp success
  cases positive : d.amount.isPositive
  · simp [positive] at success
  · simp [positive, announce] at success
    obtain ⟨⟨rfl, -⟩, -⟩ := success
    exact ⟨rfl, rfl, rfl, rfl, rfl, rfl, rfl, rfl, rfl, rfl⟩

theorem confirm_eq_ok {user : Uuid} {at_ : Instant} {env : Envelope VoucherEvent}
    (success : (v.confirm user at_).run f = .ok ((v', env), f')) :
    v.status.canConfirm = true ∧ user.isNil = false ∧
      v' = { v with status := .confirmed, confirmedAt := some at_, confirmedBy := some user }.touch
        at_ := by
  cases draft : v.status.canConfirm
  · simp [confirm, draft] at success
  · cases nil : user.isNil
    · simp [confirm, draft, nil, Validate.present, announce] at success
      obtain ⟨⟨rfl, -⟩, -⟩ := success
      exact ⟨rfl, rfl, rfl⟩
    · simp [confirm, draft, nil, Validate.present] at success

/-- An allocation that goes through: the guards it passed, the sum and difference it took,
and the voucher it leaves. -/
theorem allocate_eq_ok {target : Uuid} {targetNumber : String} {amount : Money} {remark : String}
    {at_ : Instant} {allocation : Allocation} {env : Envelope VoucherEvent}
    (success : (v.allocate target targetNumber amount remark at_).run f =
      .ok ((v', allocation, env), f')) :
    v.status.canAllocate = true ∧ target.isNil = false ∧ targetNumber.isEmpty = false ∧
      amount.currency = v.currency ∧ amount.isPositive = true ∧
      v.unallocated.lt amount.amount = false ∧ (v.allocationFor? target).isSome = false ∧
      ∃ allocated unallocated, Decimal.add? v.allocated amount.amount = some allocated ∧
        Decimal.sub? v.amount allocated = some unallocated ∧
        allocation = ⟨f.peek, v.id, target, targetNumber, amount.amount, at_, remark⟩ ∧
        v' = { v with
          allocations := v.allocations ++ [allocation], allocated := allocated
          unallocated := unallocated
          status := if unallocated.isZero then .allocated else v.status }.touch at_ := by
  cases open_ : v.status.canAllocate
  case false => simp [allocate, open_] at success
  cases nil : target.isNil
  case true => simp [allocate, open_, nil, Validate.present] at success
  cases empty : targetNumber.isEmpty
  case true => simp [allocate, open_, nil, empty, Validate.present, Validate.nonEmpty] at success
  cases valid : Validate.positiveAmount amount v.currency "Allocation amount" with
  | error e =>
    simp [allocate, open_, nil, empty, valid, Validate.present, Validate.nonEmpty] at success
  | ok value =>
    obtain ⟨currency, positive, rfl⟩ := Validate.positiveAmount_eq_ok.mp valid
    cases above : v.unallocated.lt amount.amount
    case true =>
      simp [allocate, open_, nil, empty, valid, above, Validate.present, Validate.nonEmpty]
        at success
    cases taken : (v.allocationFor? target).isSome
    case true =>
      simp [allocate, open_, nil, empty, valid, above, taken, Validate.present,
        Validate.nonEmpty] at success
    cases sum : v.allocated.add? amount.amount with
    | none =>
      simp [allocate, open_, nil, empty, valid, above, taken, Validate.present,
        Validate.nonEmpty, Cmd.run_plus_overflow sum] at success
    | some allocated =>
      cases difference : v.amount.sub? allocated with
      | none =>
        simp [allocate, open_, nil, empty, valid, above, taken, Validate.present,
          Validate.nonEmpty, Cmd.run_plus sum, Cmd.run_minus_overflow difference] at success
      | some unallocated =>
        simp [allocate, open_, nil, empty, valid, above, taken, Validate.present,
          Validate.nonEmpty, Cmd.run_plus sum, Cmd.run_minus difference, announce] at success
        obtain ⟨⟨rfl, rfl, -⟩, -⟩ := success
        exact ⟨rfl, rfl, rfl, currency, positive, rfl, rfl, allocated, unallocated, rfl,
          difference, rfl, rfl⟩

theorem cancel_eq_ok {user : Uuid} {reason : String} {at_ : Instant}
    {env : Envelope VoucherEvent} (success : (v.cancel user reason at_).run f = .ok ((v', env), f')) :
    v.status.canCancel = true ∧ v.allocated.isPositive = false ∧ user.isNil = false ∧
      reason.isEmpty = false ∧
      v' = { v with
        status := .cancelled, cancelledAt := some at_, cancelledBy := some user
        cancelReason := some reason }.touch at_ := by
  cases open_ : v.status.canCancel
  case false => simp [cancel, open_] at success
  cases allocated : v.allocated.isPositive
  case true => simp [cancel, open_, allocated] at success
  cases nil : user.isNil
  case true => simp [cancel, open_, allocated, nil, Validate.present] at success
  cases empty : reason.isEmpty
  case true =>
    simp [cancel, open_, allocated, nil, empty, Validate.present, Validate.nonEmpty] at success
  simp [cancel, open_, allocated, nil, empty, Validate.present, Validate.nonEmpty, announce]
    at success
  obtain ⟨⟨rfl, -⟩, -⟩ := success
  exact ⟨rfl, rfl, rfl, rfl, rfl⟩

theorem setReference_eq_ok {reference : String} {at_ : Instant}
    (success : v.setReference reference at_ = .ok v') :
    v.status.isTerminal = false ∧ ¬reference.length > maxReferenceLength ∧
      v' = { v with reference := reference }.touch at_ := by
  cases closed : v.status.isTerminal
  · by_cases long : reference.length > maxReferenceLength
    · simp [setReference, editable, closed, Validate.maxLength, long] at success
    · simp [setReference, editable, closed, Validate.maxLength, long] at success
      exact ⟨rfl, long, success.symm⟩
  · simp [setReference, editable, closed] at success

theorem setRemark_eq_ok {remark : String} {at_ : Instant}
    (success : v.setRemark remark at_ = .ok v') :
    v.status.isTerminal = false ∧ v' = { v with remark := remark }.touch at_ := by
  cases closed : v.status.isTerminal
  · simp [setRemark, editable, closed] at success
    exact ⟨rfl, success.symm⟩
  · simp [setRemark, editable, closed] at success

/-- No command but an allocation does arithmetic on a voucher: each keeps its amount, what is
allocated and what is left, and its allocations. -/
theorem exec_keeps_tally {op : VoucherOp} (success : (v.exec op).run f = .ok (v', f'))
    (notAllocation : ∀ target targetNumber amount remark at_,
      op ≠ .allocate target targetNumber amount remark at_) :
    v'.amount = v.amount ∧ v'.allocated = v.allocated ∧ v'.unallocated = v.unallocated ∧
      v'.allocations = v.allocations := by
  cases op with
  | confirm user at_ =>
    obtain ⟨⟨v'', env⟩, run, rfl⟩ := Cmd.run_map_eq_ok.mp success
    obtain ⟨-, -, rfl⟩ := confirm_eq_ok run
    exact ⟨rfl, rfl, rfl, rfl⟩
  | allocate target targetNumber amount remark at_ =>
    exact absurd rfl (notAllocation target targetNumber amount remark at_)
  | cancel user reason at_ =>
    obtain ⟨⟨v'', env⟩, run, rfl⟩ := Cmd.run_map_eq_ok.mp success
    obtain ⟨-, -, -, -, rfl⟩ := cancel_eq_ok run
    exact ⟨rfl, rfl, rfl, rfl⟩
  | setReference reference at_ =>
    obtain ⟨changed, -⟩ := Cmd.run_check_eq_ok.mp success
    obtain ⟨-, -, rfl⟩ := setReference_eq_ok changed
    exact ⟨rfl, rfl, rfl, rfl⟩
  | setRemark remark at_ =>
    obtain ⟨changed, -⟩ := Cmd.run_check_eq_ok.mp success
    obtain ⟨-, rfl⟩ := setRemark_eq_ok changed
    exact ⟨rfl, rfl, rfl, rfl⟩

end Voucher

end Subledger
