import Subledger.Proofs.Abort
import Subledger.Expense.Basic
import Subledger.Income.Basic

/-! # Commands on expense and other-income records

The commands of an expense record and of an other-income record, each with its arguments, and
what running one leaves. None of them does unchecked arithmetic, so none aborts, whatever the
record.
-/

namespace Subledger

/-- A command on an expense record, with its arguments. -/
inductive ExpenseOp where
  | update (category : ExpenseCategory) (amount : Money) (description : String)
      (incurredAt at_ : Instant)
  | submit (user : Uuid) (at_ : Instant)
  | approve (user : Uuid) (remark : String) (at_ : Instant)
  | reject (user : Uuid) (reason : String) (at_ : Instant)
  | cancel (user : Uuid) (reason : String) (at_ : Instant)
  | markPaid (method : PaymentMethod) (at_ : Instant)
  | setRemark (remark : String) (at_ : Instant)
  | setAttachments (urls : List String) (at_ : Instant)

/-- A command on an other-income record, with its arguments. -/
inductive IncomeOp where
  | update (category : IncomeCategory) (amount : Money) (description : String)
      (receivedAt at_ : Instant)
  | confirm (user : Uuid) (at_ : Instant)
  | cancel (user : Uuid) (reason : String) (at_ : Instant)
  | markReceived (method : PaymentMethod) (at_ : Instant)
  | setRemark (remark : String) (at_ : Instant)
  | setAttachments (urls : List String) (at_ : Instant)

namespace Expense

/-- Runs a command on an expense record, keeping the record it leaves. -/
def exec (r : Expense) : ExpenseOp → Cmd Expense
  | .update category amount description incurredAt at_ =>
    Cmd.check (r.update category amount description incurredAt at_)
  | .submit user at_ => Prod.fst <$> r.submit user at_
  | .approve user remark at_ => Prod.fst <$> r.approve user remark at_
  | .reject user reason at_ => Prod.fst <$> r.reject user reason at_
  | .cancel user reason at_ => Prod.fst <$> r.cancel user reason at_
  | .markPaid method at_ => Prod.fst <$> r.markPaid method at_
  | .setRemark remark at_ => pure (r.setRemark remark at_)
  | .setAttachments urls at_ => pure (r.setAttachments urls at_)

theorem noAbort_exec (r : Expense) (op : ExpenseOp) : (r.exec op).NoAbort := by
  intro f
  cases op <;> simp [exec, submit, approve, reject, cancel, markPaid, announce]

end Expense

namespace Income

/-- Runs a command on an other-income record, keeping the record it leaves. -/
def exec (r : Income) : IncomeOp → Cmd Income
  | .update category amount description receivedAt at_ =>
    Cmd.check (r.update category amount description receivedAt at_)
  | .confirm user at_ => Prod.fst <$> r.confirm user at_
  | .cancel user reason at_ => Prod.fst <$> r.cancel user reason at_
  | .markReceived method at_ => Prod.fst <$> r.markReceived method at_
  | .setRemark remark at_ => pure (r.setRemark remark at_)
  | .setAttachments urls at_ => pure (r.setAttachments urls at_)

theorem noAbort_exec (r : Income) (op : IncomeOp) : (r.exec op).NoAbort := by
  intro f
  cases op <;> simp [exec, confirm, cancel, markReceived, announce]

end Income

end Subledger
