import Mathlib.Logic.Relation
import Subledger.Proofs.Abort
import Subledger.Proofs.Ledger.Step
import Subledger.Memo.Basic

/-! # Commands on memos

The commands of a credit or debit memo with their arguments, the memos a run of them reaches
from the factory, and for each command what it checked and what it left when it went through.
Proofs about memos take runs apart with these and never unfold a command.
-/

namespace Subledger

/-- A command on a memo, with its arguments. -/
inductive MemoOp where
  | addItem (line : MemoLine) (at_ : Instant)
  | linkEntry (target : Uuid) (at_ : Instant)
  | apply (target : Uuid) (amount : Money) (remark : String) (at_ : Instant)
  | void (reason : String) (at_ : Instant)
  | refund (method : String) (at_ : Instant)
  | setRemark (remark : String) (at_ : Instant)

namespace Memo

/-- Runs a command on a memo, keeping the memo it leaves. -/
def exec (m : Memo) : MemoOp → Cmd Memo
  | .addItem line at_ => Prod.fst <$> m.addItem line at_
  | .linkEntry target at_ => Cmd.check (m.linkEntry target at_)
  | .apply target amount remark at_ => Prod.fst <$> m.apply target amount remark at_
  | .void reason at_ => Prod.fst <$> m.void reason at_
  | .refund method at_ => Prod.fst <$> m.refund method at_
  | .setRemark remark at_ => pure (m.setRemark remark at_)

/-- A memo the factory raised for a draft. -/
def OpenedFrom (d : MemoDraft) (m : Memo) : Prop :=
  ∃ side f env f', (create side d).run f = .ok ((m, env), f')

/-- One successful command, with any arguments and any source of fresh identifiers. -/
def Step (m m' : Memo) : Prop := ∃ op f f', (m.exec op).run f = .ok (m', f')

/-- The memos a run of commands reaches from one the factory raised. -/
def Reachable (m : Memo) : Prop :=
  ∃ d m₀, m₀.OpenedFrom d ∧ Relation.ReflTransGen Step m₀ m

variable {m m' : Memo} {f f' : Fresh}

@[simp] theorem touch_total (m : Memo) (at_ : Instant) : (m.touch at_).total = m.total := rfl

@[simp] theorem touch_applied (m : Memo) (at_ : Instant) : (m.touch at_).applied = m.applied :=
  rfl

@[simp] theorem touch_remaining (m : Memo) (at_ : Instant) :
    (m.touch at_).remaining = m.remaining := rfl

@[simp] theorem touch_applications (m : Memo) (at_ : Instant) :
    (m.touch at_).applications = m.applications := rfl

@[simp] theorem touch_status (m : Memo) (at_ : Instant) : (m.touch at_).status = m.status := rfl

@[simp] theorem touch_id (m : Memo) (at_ : Instant) : (m.touch at_).id = m.id := rfl

@[simp] theorem touch_currency (m : Memo) (at_ : Instant) : (m.touch at_).currency = m.currency :=
  rfl

theorem create_eq_ok {side : Side} {d : MemoDraft} {env : Envelope MemoEvent}
    (success : (create side d).run f = .ok ((m, env), f')) :
    d.total.isPositive = true ∧ m.side = side ∧ m.currency = d.total.currency ∧
      m.total = d.total.amount ∧ m.applied = Decimal.zero ∧ m.remaining = d.total.amount ∧
      m.applications = [] ∧ m.status = .pending ∧ m.items = [] := by
  unfold create at success
  obtain ⟨-, -, success⟩ := Cmd.run_check_bind_eq_ok.mp success
  obtain ⟨-, -, success⟩ := Cmd.run_check_bind_eq_ok.mp success
  obtain ⟨-, -, success⟩ := Cmd.run_check_bind_eq_ok.mp success
  obtain ⟨-, -, success⟩ := Cmd.run_check_bind_eq_ok.mp success
  obtain ⟨-, -, success⟩ := Cmd.run_check_bind_eq_ok.mp success
  cases positive : d.total.isPositive
  · simp [positive] at success
  · simp [positive, announce] at success
    obtain ⟨⟨rfl, -⟩, -⟩ := success
    exact ⟨rfl, rfl, rfl, rfl, rfl, rfl, rfl, rfl, rfl⟩

/-- A new line goes only to a pending memo: its quantity is positive, its unit price in the
memo's currency and not negative, its amount the checked product of the two, and the sum of the
lines with it still fits. The memo only gains the item. -/
theorem addItem_eq_ok {line : MemoLine} {at_ : Instant} {item : MemoItem}
    (success : (m.addItem line at_).run f = .ok ((m', item), f')) :
    m.status = .pending ∧ line.quantity.isPositive = true ∧
      line.unitPrice.currency = m.currency ∧ line.unitPrice.isNegative = false ∧
      ∃ amount sum, line.quantity.mul? line.unitPrice.amount = some amount ∧
        m.itemsTotal = .ok sum ∧ (sum.amount.add? amount).isSome = true ∧
        item = ⟨f.peek, m.id, line.returnDoc, line.returnItem, line.product, line.productName,
          line.productCode, line.unit, line.quantity, line.unitPrice.amount, amount, line.reason,
          at_⟩ ∧
        m' = { m with items := m.items ++ [item] }.touch at_ := by
  cases pending : m.status == .pending
  case false => simp [addItem, pending] at success
  cases quantity : line.quantity.isPositive
  case false => simp [addItem, pending, quantity] at success
  cases currency : line.unitPrice.currency == m.currency
  case false => simp [addItem, pending, quantity, currency] at success
  cases negative : line.unitPrice.isNegative
  case true => simp [addItem, pending, quantity, currency, negative] at success
  cases product : line.quantity.mul? line.unitPrice.amount with
  | none => simp [addItem, pending, quantity, currency, negative, product] at success
  | some amount =>
    cases total : m.itemsTotal with
    | error e => simp [addItem, pending, quantity, currency, negative, product, total] at success
    | ok sum =>
      cases overflow : sum.amount.add? amount with
      | none =>
        simp [addItem, pending, quantity, currency, negative, product, total, overflow] at success
      | some _ =>
        simp [addItem, pending, quantity, currency, negative, product, total, overflow] at success
        obtain ⟨⟨rfl, rfl⟩, -⟩ := success
        exact ⟨by revert pending; cases m.status <;> decide, rfl, by simpa using currency, rfl,
          amount, sum, rfl, rfl, by simp [overflow], rfl, rfl⟩

theorem linkEntry_eq_ok {target : Uuid} {at_ : Instant}
    (success : m.linkEntry target at_ = .ok m') :
    m' = { m with linkedEntry := some target }.touch at_ := by
  cases nil : target.isNil
  · simp [linkEntry, nil, Validate.present] at success
    exact success.symm
  · simp [linkEntry, nil, Validate.present] at success

/-- An application that goes through: the guards it passed, the sum and difference it took,
and the memo it leaves, applied when nothing remains and partial otherwise. -/
theorem apply_eq_ok {target : Uuid} {amount : Money} {remark : String} {at_ : Instant}
    {env : Envelope MemoEvent}
    (success : (m.apply target amount remark at_).run f = .ok ((m', env), f')) :
    m.status.canApply = true ∧ target.isNil = false ∧ amount.currency = m.currency ∧
      amount.isPositive = true ∧ m.remaining.lt amount.amount = false ∧
      ∃ applied remaining, Decimal.add? m.applied amount.amount = some applied ∧
        Decimal.sub? m.total applied = some remaining ∧
        m' = if remaining.isZero then
          { ({ m with
              applications := m.applications ++ [(⟨f.peek, m.id, target, amount.amount, at_, remark⟩ : MemoApplication)]
              applied := applied, remaining := remaining }.touch at_) with
            status := .applied, appliedAt := some at_ }
        else
          { ({ m with
              applications := m.applications ++ [(⟨f.peek, m.id, target, amount.amount, at_, remark⟩ : MemoApplication)]
              applied := applied, remaining := remaining }.touch at_) with
            status := .partlyApplied } := by
  cases open_ : m.status.canApply
  case false => simp [apply, open_] at success
  cases nil : target.isNil
  case true => simp [apply, open_, nil, Validate.present] at success
  cases valid : Validate.positiveAmount amount m.currency "Application amount" with
  | error e => simp [apply, open_, nil, valid, Validate.present] at success
  | ok value =>
    obtain ⟨currency, positive, rfl⟩ := Validate.positiveAmount_eq_ok.mp valid
    cases above : m.remaining.lt amount.amount
    case true => simp [apply, open_, nil, valid, above, Validate.present] at success
    cases sum : m.applied.add? amount.amount with
    | none =>
      simp [apply, open_, nil, valid, above, Validate.present, Cmd.run_plus_overflow sum]
        at success
    | some applied =>
      cases difference : m.total.sub? applied with
      | none =>
        simp [apply, open_, nil, valid, above, Validate.present, Cmd.run_plus sum,
          Cmd.run_minus_overflow difference] at success
      | some remaining =>
        refine ⟨rfl, rfl, currency, positive, rfl, applied, remaining, rfl, difference, ?_⟩
        cases zero : remaining.isZero
        · simp [apply, open_, nil, valid, above, zero, Validate.present, Cmd.run_plus sum,
            Cmd.run_minus difference, announce] at success
          obtain ⟨⟨rfl, -⟩, -⟩ := success
          rfl
        · simp [apply, open_, nil, valid, above, zero, Validate.present, Cmd.run_plus sum,
            Cmd.run_minus difference, announce] at success
          obtain ⟨⟨rfl, -⟩, -⟩ := success
          rfl

theorem void_eq_ok {reason : String} {at_ : Instant} {env : Envelope MemoEvent}
    (success : (m.void reason at_).run f = .ok ((m', env), f')) :
    m.status.isTerminal = false ∧ m.applied.isPositive = false ∧ reason.isEmpty = false ∧
      m' = { m with
        status := .voided, voidedAt := some at_, voidReason := some reason
        remaining := Decimal.zero }.touch at_ := by
  cases closed : m.status.isTerminal
  case true => simp [void, closed] at success
  cases applied : m.applied.isPositive
  case true => simp [void, closed, applied] at success
  cases empty : reason.isEmpty
  case true => simp [void, closed, applied, empty, Validate.nonEmpty] at success
  simp [void, closed, applied, empty, Validate.nonEmpty, announce] at success
  obtain ⟨⟨rfl, -⟩, -⟩ := success
  exact ⟨rfl, rfl, rfl, rfl⟩

/-- A refund that goes through: the memo could be applied and something remained; the whole
total now counts as applied. -/
theorem refund_eq_ok {method : String} {at_ : Instant} {env : Envelope MemoEvent}
    (success : (m.refund method at_).run f = .ok ((m', env), f')) :
    m.status.canApply = true ∧ m.remaining.isPositive = true ∧ method.isEmpty = false ∧
      m' = { m with
        status := .refunded, refundedAt := some at_, refundMethod := some method
        applied := m.total, remaining := Decimal.zero }.touch at_ := by
  cases open_ : m.status.canApply
  case false => simp [refund, open_] at success
  cases remains : m.remaining.isPositive
  case false => simp [refund, open_, remains] at success
  cases empty : method.isEmpty
  case true => simp [refund, open_, remains, empty, Validate.nonEmpty] at success
  simp [refund, open_, remains, empty, Validate.nonEmpty, announce] at success
  obtain ⟨⟨rfl, -⟩, -⟩ := success
  exact ⟨rfl, rfl, rfl, rfl⟩

end Memo

end Subledger
