import Mathlib.Data.List.Chain
import Mathlib.Logic.Relation
import Subledger.Proofs.Booking.Step
import Subledger.Proofs.Decimal.Value
import Subledger.Proofs.Ensures
import Subledger.Proofs.Ledger.Step

/-! # The approval workflows of expense and other-income records

An expense is drafted, submitted, then approved or rejected, or cancelled before a decision; an
other-income record is drafted, then confirmed or cancelled. `Expense.Change` and
`Income.Change` list what one command can do with the guards it passed, so every fact below is
a case split on the change, and the run invariants follow by induction on the run.

Main statement: `approval_workflows`.
-/

namespace Subledger

namespace Validate

theorem details_eq_ok {amount : Money} {description : String} {u : Unit} :
    details amount description = .ok u ↔
      amount.isPositive = true ∧ description.isEmpty = false ∧
        description.length ≤ maxDescriptionLength := by
  unfold details nonEmpty maxLength
  cases amount.isPositive <;> cases description.isEmpty <;>
    by_cases long : description.length > maxDescriptionLength <;> simp [long]
  -- what is left is the accepted case, where the length is within the bound
  omega

theorem details_spec {amount : Money} {description : String}
    (checked : details amount description = .ok ()) :
    amount.isPositive = true ∧ 0 < description.length ∧
      description.length ≤ maxDescriptionLength := by
  obtain ⟨positive, nonEmpty, short⟩ := details_eq_ok.mp checked
  refine ⟨positive, Nat.pos_of_ne_zero fun zero => ?_, short⟩
  simp [String.length_eq_zero_iff.mp zero] at nonEmpty

end Validate

@[simp] theorem ExpenseStatus.beq_eq (s t : ExpenseStatus) : (s == t) = decide (s = t) := by
  cases s <;> cases t <;> rfl

@[simp] theorem PayoutStatus.beq_eq (s t : PayoutStatus) : (s == t) = decide (s = t) := by
  cases s <;> cases t <;> rfl

@[simp] theorem IncomeStatus.beq_eq (s t : IncomeStatus) : (s == t) = decide (s = t) := by
  cases s <;> cases t <;> rfl

@[simp] theorem ReceiptStatus.beq_eq (s t : ReceiptStatus) : (s == t) = decide (s = t) := by
  cases s <;> cases t <;> rfl

namespace IncomeStatus

/-- The edges of an income's workflow: confirmation or cancellation of a draft. -/
inductive Move : IncomeStatus → IncomeStatus → Prop
  | confirm : Move .draft .confirmed
  | cancel : Move .draft .cancelled

theorem eq_draft_of_canConfirm {s : IncomeStatus} (h : s.canConfirm = true) : s = .draft := by
  cases s <;> simp_all [canConfirm]

theorem eq_draft_of_canCancel {s : IncomeStatus} (h : s.canCancel = true) : s = .draft := by
  cases s <;> simp_all [canCancel]

end IncomeStatus

namespace ExpenseStatus

/-- The edges of the approval workflow: submission of a draft, a decision on a submitted
expense, and cancellation before a decision. -/
inductive Move : ExpenseStatus → ExpenseStatus → Prop
  | submit : Move .draft .pending
  | approve : Move .pending .approved
  | reject : Move .pending .rejected
  | cancelDraft : Move .draft .cancelled
  | cancelPending : Move .pending .cancelled

theorem eq_of_canCancel {s : ExpenseStatus} (h : s.canCancel = true) :
    s = .draft ∨ s = .pending := by
  cases s <;> simp_all [canCancel]

end ExpenseStatus

/-! ## Expense records -/

namespace Expense

/-- An expense record the factory booked for a draft. -/
def OpenedFrom (d : ExpenseDraft) (r : Expense) : Prop :=
  ∃ f env f', (create d).run f = .ok ((r, env), f')

/-- One successful command, with any arguments and any source of fresh identifiers. -/
def Step (r r' : Expense) : Prop := ∃ op f f', (r.exec op).run f = .ok (r', f')

/-- The records a run of commands reaches from one the factory booked. -/
def Reachable (r : Expense) : Prop :=
  ∃ d r₀, r₀.OpenedFrom d ∧ Relation.ReflTransGen Step r₀ r

/-- What a command that goes through does to an expense record, with the guards it passed. -/
inductive Change (r : Expense) : Expense → Prop
  | update {category : ExpenseCategory} {amount : Money} {description : String}
      {incurredAt at_ : Instant} :
      r.status = .draft → Validate.details amount description = .ok () →
      Change r ({ r with
        category := category, amount := amount, description := description
        incurredAt := incurredAt }.touch at_)
  | submit {user : Uuid} {at_ : Instant} :
      r.status = .draft → user.isNil = false →
      Change r ({ r with
        status := .pending, submittedAt := some at_, submittedBy := some user }.touch at_)
  | approve {user : Uuid} {remark : String} {at_ : Instant} :
      r.status = .pending → user.isNil = false →
      Change r ({ r with
        status := .approved, approvedAt := some at_, approvedBy := some user
        approvalRemark := remark }.touch at_)
  | reject {user : Uuid} {reason : String} {at_ : Instant} :
      r.status = .pending → user.isNil = false → reason.isEmpty = false →
      Change r ({ r with
        status := .rejected, rejectedAt := some at_, rejectedBy := some user
        rejectionReason := some reason }.touch at_)
  | cancel {user : Uuid} {reason : String} {at_ : Instant} :
      r.status.canCancel = true → user.isNil = false → reason.isEmpty = false →
      Change r ({ r with
        status := .cancelled, cancelledAt := some at_, cancelledBy := some user
        cancelReason := some reason }.touch at_)
  | markPaid {method : PaymentMethod} {at_ : Instant} :
      r.status = .approved → r.payout = .unpaid →
      Change r ({ r with payout := .paid, method := some method, paidAt := some at_ }.touch at_)
  | setRemark {remark : String} {at_ : Instant} : Change r ({ r with remark := remark }.touch at_)
  | setAttachments {urls : List String} {at_ : Instant} :
      Change r ({ r with attachments := urls }.touch at_)

variable {r r' : Expense}

theorem PayoutStatus.eq_unpaid_of_ne {p : PayoutStatus} (h : p ≠ .paid) : p = .unpaid := by
  cases p <;> simp_all

theorem Step.change (step : r.Step r') : r.Change r' := by
  obtain ⟨op, f, f', success⟩ := step
  refine Cmd.Ensures.of_run_eq_ok ?_ success
  cases op with
  | update category amount description incurredAt at_ =>
    simp [exec, update, Cmd.bind_eq_ok, Cmd.ite_eq_ok]
    rintro _ draft _ checked rfl
    exact .update draft checked
  | submit user at_ =>
    simp only [exec, submit, announce]
    simp
    intro draft _ present
    exact .submit (by cases h : r.status <;> simp_all [ExpenseStatus.canSubmit])
      (Validate.present_eq_ok.mp present)
  | approve user remark at_ =>
    simp only [exec, approve, announce]
    simp
    intro pending _ present
    exact .approve (by cases h : r.status <;> simp_all [ExpenseStatus.canApprove])
      (Validate.present_eq_ok.mp present)
  | reject user reason at_ =>
    simp only [exec, reject, announce]
    simp
    intro pending _ present _ given
    exact .reject (by cases h : r.status <;> simp_all [ExpenseStatus.canApprove])
      (Validate.present_eq_ok.mp present) (Validate.nonEmpty_eq_ok.mp given)
  | cancel user reason at_ =>
    simp only [exec, cancel, announce]
    simp
    intro open_ _ present _ given
    exact .cancel open_ (Validate.present_eq_ok.mp present) (Validate.nonEmpty_eq_ok.mp given)
  | markPaid method at_ =>
    simp only [exec, markPaid, announce]
    simp
    intro approved unpaid
    exact .markPaid approved (PayoutStatus.eq_unpaid_of_ne unpaid)
  | setRemark remark at_ => simpa [exec, setRemark] using .setRemark
  | setAttachments urls at_ => simpa [exec, setAttachments] using .setAttachments

/-- What the approval workflow keeps true of an expense record. -/
structure Workflow (r : Expense) : Prop where
  /-- The amount is above zero. -/
  amount_pos : r.amount.isPositive = true
  /-- The description has one to 500 characters. -/
  description_length : 0 < r.description.length ∧
    r.description.length ≤ Validate.maxDescriptionLength
  /-- A draft carries no submission stamp. -/
  draft_unsubmitted : r.status = .draft → r.submittedAt = none ∧ r.submittedBy = none
  /-- A submitted, approved or rejected expense carries its submission stamp. -/
  submitted : r.status = .pending ∨ r.status = .approved ∨ r.status = .rejected →
    r.submittedAt.isSome ∧ r.submittedBy.isSome
  /-- The time and the user of the submission are stamped together. -/
  submitted_together : r.submittedAt.isSome ↔ r.submittedBy.isSome
  /-- The approval is stamped exactly on an approved expense. -/
  approved : (r.approvedAt.isSome ↔ r.status = .approved) ∧
    (r.approvedBy.isSome ↔ r.status = .approved)
  /-- The rejection is stamped exactly on a rejected expense. -/
  rejected : (r.rejectedAt.isSome ↔ r.status = .rejected) ∧
    (r.rejectedBy.isSome ↔ r.status = .rejected) ∧
    (r.rejectionReason.isSome ↔ r.status = .rejected)
  /-- The cancellation is stamped exactly on a cancelled expense. -/
  cancelled : (r.cancelledAt.isSome ↔ r.status = .cancelled) ∧
    (r.cancelledBy.isSome ↔ r.status = .cancelled) ∧
    (r.cancelReason.isSome ↔ r.status = .cancelled)
  /-- Only an approved expense is paid out. -/
  paid_approved : r.payout = .paid → r.status = .approved
  /-- The way and the time of the payout are stamped exactly on a paid expense. -/
  payout : (r.method.isSome ↔ r.payout = .paid) ∧ (r.paidAt.isSome ↔ r.payout = .paid)

theorem workflow_opened {d : ExpenseDraft} (opened : r.OpenedFrom d) : r.Workflow := by
  obtain ⟨f, env, f', success⟩ := opened
  refine Cmd.Ensures.of_run_eq_ok (P := fun x => x.1.Workflow) ?_ success
  simp only [create, announce]
  simp
  intro _ _ _ checked
  obtain ⟨positive, nonEmpty, short⟩ := Validate.details_spec checked
  exact ⟨positive, ⟨nonEmpty, short⟩, by simp, by simp, by simp, by simp, by simp, by simp,
    by simp, by simp⟩

theorem status_opened {d : ExpenseDraft} (opened : r.OpenedFrom d) : r.status = .draft := by
  obtain ⟨f, env, f', success⟩ := opened
  refine Cmd.Ensures.of_run_eq_ok (P := fun x => x.1.status = .draft) ?_ success
  simp only [create, announce]
  simp

namespace Workflow

variable (workflow : r.Workflow)
include workflow

/-- Every change keeps the workflow: an edit checks the new details, each decision stamps
exactly its own fields and moves to its own state, and a payout needs an approved and unpaid
expense. -/
theorem change (change : r.Change r') : r'.Workflow := by
  cases change with
  | update draft checked =>
    obtain ⟨positive, nonEmpty, short⟩ := Validate.details_spec checked
    exact { workflow with amount_pos := positive, description_length := ⟨nonEmpty, short⟩ }
  | submit draft _ =>
    obtain ⟨approved, approvedBy⟩ := workflow.approved
    obtain ⟨rejected, rejectedBy, reason⟩ := workflow.rejected
    obtain ⟨cancelled, cancelledBy, cancelReason⟩ := workflow.cancelled
    refine { workflow with
      draft_unsubmitted := by simp [touch]
      submitted := by simp [touch]
      submitted_together := by simp [touch]
      approved := ?_, rejected := ?_, cancelled := ?_
      paid_approved := fun paid => absurd (workflow.paid_approved paid) (by simp [draft]) }
    all_goals simp_all [touch]
  | approve pending _ =>
    obtain ⟨rejected, rejectedBy, reason⟩ := workflow.rejected
    obtain ⟨cancelled, cancelledBy, cancelReason⟩ := workflow.cancelled
    refine { workflow with
      draft_unsubmitted := by simp [touch]
      submitted := fun _ => workflow.submitted (.inl pending)
      approved := by simp [touch]
      rejected := ?_, cancelled := ?_
      paid_approved := fun _ => rfl }
    all_goals simp_all [touch]
  | reject pending _ _ =>
    obtain ⟨approved, approvedBy⟩ := workflow.approved
    obtain ⟨cancelled, cancelledBy, cancelReason⟩ := workflow.cancelled
    refine { workflow with
      draft_unsubmitted := by simp [touch]
      submitted := fun _ => workflow.submitted (.inl pending)
      rejected := by simp [touch]
      approved := ?_, cancelled := ?_
      paid_approved := fun paid => absurd (workflow.paid_approved paid) (by simp [pending]) }
    all_goals simp_all [touch]
  | cancel open_ _ _ =>
    have undecided := ExpenseStatus.eq_of_canCancel open_
    obtain ⟨approved, approvedBy⟩ := workflow.approved
    obtain ⟨rejected, rejectedBy, reason⟩ := workflow.rejected
    refine { workflow with
      draft_unsubmitted := by simp [touch]
      submitted := by simp [touch]
      cancelled := by simp [touch]
      approved := ?_, rejected := ?_
      paid_approved := fun paid => by
        rcases undecided with draft | pending <;> simp_all [workflow.paid_approved paid] }
    all_goals rcases undecided with draft | pending <;> simp_all [touch]
  | markPaid approved _ =>
    exact { workflow with paid_approved := fun _ => approved, payout := by simp [touch] }
  | setRemark => exact { workflow with }
  | setAttachments => exact { workflow with }

end Workflow

theorem workflow_of_reachable (reach : r.Reachable) : r.Workflow := by
  obtain ⟨d, r₀, opened, run⟩ := reach
  induction run with
  | refl => exact workflow_opened opened
  | tail _ step ih => exact ih.change step.change

namespace Change

variable (change : r.Change r')
include change

theorem status_moves : r'.status = r.status ∨ ExpenseStatus.Move r.status r'.status := by
  cases change with
  | submit draft _ => exact .inr (by simpa [touch, draft] using ExpenseStatus.Move.submit)
  | approve pending _ => exact .inr (by simpa [touch, pending] using ExpenseStatus.Move.approve)
  | reject pending _ _ => exact .inr (by simpa [touch, pending] using ExpenseStatus.Move.reject)
  | cancel open_ _ _ =>
    rcases ExpenseStatus.eq_of_canCancel open_ with draft | pending
    · exact .inr (by simpa [touch, draft] using ExpenseStatus.Move.cancelDraft)
    · exact .inr (by simpa [touch, pending] using ExpenseStatus.Move.cancelPending)
  | update | markPaid | setRemark | setAttachments => exact .inl rfl

theorem details_of_ne_draft (submitted : r.status ≠ .draft) :
    r'.category = r.category ∧ r'.amount = r.amount ∧ r'.description = r.description ∧
      r'.incurredAt = r.incurredAt := by
  cases change with
  | update draft => exact absurd draft submitted
  | _ => exact ⟨rfl, rfl, rfl, rfl⟩

theorem payout_of_paid (paid : r.payout = .paid) :
    r'.payout = .paid ∧ r'.method = r.method ∧ r'.paidAt = r.paidAt := by
  cases change with
  | markPaid _ unpaid => simp [paid] at unpaid
  | _ => exact ⟨paid, rfl, rfl⟩

/-- The submission stamp is set after a change exactly when it was set before or the record is
now submitted. -/
theorem submitted_iff (workflow : r.Workflow) :
    r'.submittedAt.isSome ↔ r.submittedAt.isSome ∨ r'.status = .pending := by
  cases change with
  | submit | approve | reject | cancel => simp [touch]
  | update | markPaid | setRemark | setAttachments =>
    -- these keep the status, and a record already submitted carries its stamp
    simp only [touch, iff_self_or]
    exact fun pending => (workflow.submitted (.inl pending)).1

end Change

theorem payout_frozen (run : Relation.ReflTransGen Step r r') (paid : r.payout = .paid) :
    r'.payout = .paid ∧ r'.method = r.method ∧ r'.paidAt = r.paidAt := by
  induction run with
  | refl => exact ⟨paid, rfl, rfl⟩
  | tail _ step ih =>
    obtain ⟨paid', method, paidAt⟩ := ih
    obtain ⟨paid'', method', paidAt'⟩ := step.change.payout_of_paid paid'
    exact ⟨paid'', method'.trans method, paidAt'.trans paidAt⟩

/-- Along a run of records, the last one carries a submission stamp exactly when a record of
the run was submitted, or `earlier` held before the run. -/
theorem submitted_iff_visited {earlier : Prop} {trail : List Expense} (workflow : r.Workflow)
    (start : r.submittedAt.isSome ↔ earlier ∨ r.status = .pending)
    (run : (r :: trail).IsChain Step) :
    ((r :: trail).getLast (List.cons_ne_nil _ _)).submittedAt.isSome ↔
      earlier ∨ ∃ x ∈ r :: trail, x.status = .pending := by
  induction trail generalizing r earlier with
  | nil => simpa using start
  | cons r' trail ih =>
    obtain ⟨step, run⟩ := List.isChain_cons_cons.mp run
    have change := step.change
    have next : r'.submittedAt.isSome ↔ (earlier ∨ r.status = .pending) ∨ r'.status = .pending := by
      rw [change.submitted_iff workflow, start]
    rw [List.getLast_cons_cons, ih (workflow.change change) next run]
    simp [or_assoc]

/-- What the approval workflow promises of an expense record: the facts it keeps, how the
next command may move its status, that its details change only as a draft, that a payout is
final, and that it carries a submission stamp exactly when its run went through submission. -/
structure Approval (r : Expense) : Prop where
  workflow : r.Workflow
  moves : ∀ r', r.Step r' → r'.status = r.status ∨ ExpenseStatus.Move r.status r'.status
  /-- Past the draft, no command changes the category, amount, description or date. -/
  details_fixed : r.status ≠ .draft → ∀ r', r.Step r' →
    r'.category = r.category ∧ r'.amount = r.amount ∧ r'.description = r.description ∧
      r'.incurredAt = r.incurredAt
  /-- Once paid, the payout, its way and its time never change again. -/
  payout_fixed : r.payout = .paid → ∀ r', Relation.ReflTransGen Step r r' →
    r'.payout = .paid ∧ r'.method = r.method ∧ r'.paidAt = r.paidAt
  /-- Along every run from the factory that ends here, the record carries a submission stamp
  exactly when the run went through the submitted state. -/
  submitted_history : ∀ d r₀ trail, r₀.OpenedFrom d → (r₀ :: trail).IsChain Step →
    (r₀ :: trail).getLast (List.cons_ne_nil _ _) = r →
      (r.submittedAt.isSome ↔ ∃ x ∈ r₀ :: trail, x.status = .pending)

theorem approval_of_reachable (reach : r.Reachable) : r.Approval where
  workflow := workflow_of_reachable reach
  moves := fun _ step => step.change.status_moves
  details_fixed := fun submitted _ step => step.change.details_of_ne_draft submitted
  payout_fixed := fun paid _ run => payout_frozen run paid
  submitted_history := fun _ r₀ _ opened run last => by
    -- a new record is a draft, so the run starts with no stamp and nothing submitted yet
    have draft := status_opened opened
    have workflow := workflow_opened opened
    have start : r₀.submittedAt.isSome ↔ False ∨ r₀.status = .pending := by
      simp [draft, (workflow.draft_unsubmitted draft).1]
    rw [← last, submitted_iff_visited workflow start run, false_or]

end Expense

/-! ## Other-income records -/

namespace Income

/-- An income record the factory booked for a draft. -/
def OpenedFrom (d : IncomeDraft) (r : Income) : Prop :=
  ∃ f env f', (create d).run f = .ok ((r, env), f')

/-- One successful command, with any arguments and any source of fresh identifiers. -/
def Step (r r' : Income) : Prop := ∃ op f f', (r.exec op).run f = .ok (r', f')

/-- The records a run of commands reaches from one the factory booked. -/
def Reachable (r : Income) : Prop :=
  ∃ d r₀, r₀.OpenedFrom d ∧ Relation.ReflTransGen Step r₀ r

/-- What a command that goes through does to an income record, with the guards it passed. -/
inductive Change (r : Income) : Income → Prop
  | update {category : IncomeCategory} {amount : Money} {description : String}
      {receivedAt at_ : Instant} :
      r.status = .draft → Validate.details amount description = .ok () →
      Change r ({ r with
        category := category, amount := amount, description := description
        receivedAt := receivedAt }.touch at_)
  | confirm {user : Uuid} {at_ : Instant} :
      r.status = .draft → user.isNil = false →
      Change r ({ r with
        status := .confirmed, confirmedAt := some at_, confirmedBy := some user }.touch at_)
  | cancel {user : Uuid} {reason : String} {at_ : Instant} :
      r.status = .draft → user.isNil = false → reason.isEmpty = false →
      Change r ({ r with
        status := .cancelled, cancelledAt := some at_, cancelledBy := some user
        cancelReason := some reason }.touch at_)
  | markReceived {method : PaymentMethod} {at_ : Instant} :
      r.status = .confirmed → r.receipt = .pending →
      Change r ({ r with
        receipt := .received, method := some method, actualReceivedAt := some at_ }.touch at_)
  | setRemark {remark : String} {at_ : Instant} : Change r ({ r with remark := remark }.touch at_)
  | setAttachments {urls : List String} {at_ : Instant} :
      Change r ({ r with attachments := urls }.touch at_)

variable {r r' : Income}

theorem ReceiptStatus.eq_pending_of_ne {s : ReceiptStatus} (h : s ≠ .received) : s = .pending := by
  cases s <;> simp_all

theorem Step.change (step : r.Step r') : r.Change r' := by
  obtain ⟨op, f, f', success⟩ := step
  refine Cmd.Ensures.of_run_eq_ok ?_ success
  cases op with
  | update category amount description receivedAt at_ =>
    simp [exec, update, Cmd.bind_eq_ok, Cmd.ite_eq_ok]
    rintro _ draft _ checked rfl
    exact .update draft checked
  | confirm user at_ =>
    simp only [exec, confirm, announce]
    simp
    intro draft _ present
    exact .confirm (IncomeStatus.eq_draft_of_canConfirm draft) (Validate.present_eq_ok.mp present)
  | cancel user reason at_ =>
    simp only [exec, cancel, announce]
    simp
    intro draft _ present _ given
    exact .cancel (IncomeStatus.eq_draft_of_canCancel draft) (Validate.present_eq_ok.mp present)
      (Validate.nonEmpty_eq_ok.mp given)
  | markReceived method at_ =>
    simp only [exec, markReceived, announce]
    simp
    intro confirmed pending
    exact .markReceived confirmed (ReceiptStatus.eq_pending_of_ne pending)
  | setRemark remark at_ => simpa [exec, setRemark] using .setRemark
  | setAttachments urls at_ => simpa [exec, setAttachments] using .setAttachments

/-- What the workflow keeps true of an income record. -/
structure Workflow (r : Income) : Prop where
  /-- The amount is above zero. -/
  amount_pos : r.amount.isPositive = true
  /-- The description has one to 500 characters. -/
  description_length : 0 < r.description.length ∧
    r.description.length ≤ Validate.maxDescriptionLength
  /-- The confirmation is stamped exactly on a confirmed income. -/
  confirmed : (r.confirmedAt.isSome ↔ r.status = .confirmed) ∧
    (r.confirmedBy.isSome ↔ r.status = .confirmed)
  /-- The cancellation is stamped exactly on a cancelled income. -/
  cancelled : (r.cancelledAt.isSome ↔ r.status = .cancelled) ∧
    (r.cancelledBy.isSome ↔ r.status = .cancelled) ∧
    (r.cancelReason.isSome ↔ r.status = .cancelled)
  /-- Only a confirmed income is received. -/
  received_confirmed : r.receipt = .received → r.status = .confirmed
  /-- The way and the time of the arrival are stamped exactly on a received income. -/
  receipt : (r.method.isSome ↔ r.receipt = .received) ∧
    (r.actualReceivedAt.isSome ↔ r.receipt = .received)

theorem workflow_opened {d : IncomeDraft} (opened : r.OpenedFrom d) : r.Workflow := by
  obtain ⟨f, env, f', success⟩ := opened
  refine Cmd.Ensures.of_run_eq_ok (P := fun x => x.1.Workflow) ?_ success
  simp only [create, announce]
  simp
  intro _ _ _ checked
  obtain ⟨positive, nonEmpty, short⟩ := Validate.details_spec checked
  exact ⟨positive, ⟨nonEmpty, short⟩, by simp, by simp, by simp, by simp⟩

/-- Every change keeps the workflow: an edit checks the new details, confirmation and
cancellation of a draft stamp exactly their own fields, and an arrival needs a confirmed income
not yet received. -/
theorem Workflow.change (workflow : r.Workflow) (change : r.Change r') : r'.Workflow := by
  cases change with
  | update draft checked =>
    obtain ⟨positive, nonEmpty, short⟩ := Validate.details_spec checked
    exact { workflow with amount_pos := positive, description_length := ⟨nonEmpty, short⟩ }
  | confirm draft _ =>
    obtain ⟨cancelled, cancelledBy, cancelReason⟩ := workflow.cancelled
    refine { workflow with
      confirmed := by simp [touch]
      cancelled := ?_
      received_confirmed := fun _ => rfl }
    simp_all [touch]
  | cancel draft _ _ =>
    obtain ⟨confirmed, confirmedBy⟩ := workflow.confirmed
    refine { workflow with
      confirmed := ?_
      cancelled := by simp [touch]
      received_confirmed := fun received => absurd (workflow.received_confirmed received)
        (by simp [draft]) }
    simp_all [touch]
  | markReceived confirmed _ =>
    exact { workflow with received_confirmed := fun _ => confirmed, receipt := by simp [touch] }
  | setRemark => exact { workflow with }
  | setAttachments => exact { workflow with }

theorem workflow_of_reachable (reach : r.Reachable) : r.Workflow := by
  obtain ⟨d, r₀, opened, run⟩ := reach
  induction run with
  | refl => exact workflow_opened opened
  | tail _ step ih => exact ih.change step.change

namespace Change

variable (change : r.Change r')
include change

theorem status_moves : r'.status = r.status ∨ IncomeStatus.Move r.status r'.status := by
  cases change with
  | confirm draft _ => exact .inr (by simpa [touch, draft] using IncomeStatus.Move.confirm)
  | cancel draft _ _ => exact .inr (by simpa [touch, draft] using IncomeStatus.Move.cancel)
  | update | markReceived | setRemark | setAttachments => exact .inl rfl

theorem details_of_ne_draft (confirmed : r.status ≠ .draft) :
    r'.category = r.category ∧ r'.amount = r.amount ∧ r'.description = r.description ∧
      r'.receivedAt = r.receivedAt := by
  cases change with
  | update draft => exact absurd draft confirmed
  | _ => exact ⟨rfl, rfl, rfl, rfl⟩

theorem receipt_of_received (received : r.receipt = .received) :
    r'.receipt = .received ∧ r'.method = r.method ∧ r'.actualReceivedAt = r.actualReceivedAt := by
  cases change with
  | markReceived _ pending => simp [received] at pending
  | _ => exact ⟨received, rfl, rfl⟩

end Change

theorem receipt_frozen (run : Relation.ReflTransGen Step r r') (received : r.receipt = .received) :
    r'.receipt = .received ∧ r'.method = r.method ∧ r'.actualReceivedAt = r.actualReceivedAt := by
  induction run with
  | refl => exact ⟨received, rfl, rfl⟩
  | tail _ step ih =>
    obtain ⟨received', method, receivedAt⟩ := ih
    obtain ⟨received'', method', receivedAt'⟩ := step.change.receipt_of_received received'
    exact ⟨received'', method'.trans method, receivedAt'.trans receivedAt⟩

/-- What the workflow promises of an income record: the facts it keeps, how the next command
may move its status, that its details change only as a draft, and that its arrival is final. -/
structure Approval (r : Income) : Prop where
  workflow : r.Workflow
  moves : ∀ r', r.Step r' → r'.status = r.status ∨ IncomeStatus.Move r.status r'.status
  /-- Past the draft, no command changes the category, amount, description or date. -/
  details_fixed : r.status ≠ .draft → ∀ r', r.Step r' →
    r'.category = r.category ∧ r'.amount = r.amount ∧ r'.description = r.description ∧
      r'.receivedAt = r.receivedAt
  /-- Once received, the receipt, its way and its time never change again. -/
  receipt_fixed : r.receipt = .received → ∀ r', Relation.ReflTransGen Step r r' →
    r'.receipt = .received ∧ r'.method = r.method ∧ r'.actualReceivedAt = r.actualReceivedAt

theorem approval_of_reachable (reach : r.Reachable) : r.Approval where
  workflow := workflow_of_reachable reach
  moves := fun _ step => step.change.status_moves
  details_fixed := fun confirmed _ step => step.change.details_of_ne_draft confirmed
  receipt_fixed := fun received _ run => receipt_frozen run received

end Income

/-- The approval workflows of expense and other-income records, along every run from the
factory: the amount stays positive and the description one to 500 characters long; every
decision is stamped exactly in the state it leads to; only an approved expense is paid and only
a confirmed income received, and the stamp of that is set exactly then and never changes again;
the status moves only along the edges of the workflow; the booked details change only while a
draft; and an expense carries a submission stamp exactly when its run went through
submission. -/
theorem approval_workflows :
    (∀ r : Expense, r.Reachable → r.Approval) ∧ (∀ r : Income, r.Reachable → r.Approval) :=
  ⟨fun _ reach => Expense.approval_of_reachable reach,
    fun _ reach => Income.approval_of_reachable reach⟩

/-- Twelve yuan fifty. -/
def twelveFifty : Money := ⟨Decimal.twelveFifty, .cny⟩

/-- An office expense of twelve yuan fifty, incurred and booked on the first day of 2024. -/
def paperDraft : ExpenseDraft :=
  ⟨Uuid.generated 100, "EX-1", .office, twelveFifty, "Printer paper", ⟨19723, 0, 0⟩,
    ⟨19723, 0, 0⟩⟩

/-- The expense record the factory books for `paperDraft` with the first fresh identifier. -/
def paperBooked : Expense :=
  ⟨Uuid.generated 0, paperDraft.tenant, paperDraft.number, .office, twelveFifty,
    paperDraft.description, paperDraft.incurredAt, .draft, .unpaid, none, none, "", [], none, none,
    none, none, "", none, none, none, none, none, none, 1, paperDraft.occurredAt,
    paperDraft.occurredAt⟩

/-- A subsidy of twelve yuan fifty, booked on the first day of 2024. -/
def subsidyDraft : IncomeDraft :=
  ⟨Uuid.generated 100, "OI-1", .subsidy, twelveFifty, "Energy subsidy", ⟨19723, 0, 0⟩,
    ⟨19723, 0, 0⟩⟩

/-- The income record the factory books for `subsidyDraft` with the first fresh identifier. -/
def subsidyBooked : Income :=
  ⟨Uuid.generated 0, subsidyDraft.tenant, subsidyDraft.number, .subsidy, twelveFifty,
    subsidyDraft.description, subsidyDraft.receivedAt, .draft, .pending, none, none, "", [], none,
    none, none, none, none, 1, subsidyDraft.occurredAt, subsidyDraft.occurredAt⟩

/-- `paperBooked` once submitted, approved and paid by bank transfer, a day apart each. -/
def paperPaid : Expense :=
  { paperBooked with
    status := .approved, payout := .paid, method := some .bankTransfer
    paidAt := some ⟨19726, 0, 0⟩, submittedAt := some ⟨19724, 0, 0⟩
    submittedBy := some (Uuid.generated 102), approvedAt := some ⟨19725, 0, 0⟩
    approvedBy := some (Uuid.generated 103), approvalRemark := "ok", version := 4
    updatedAt := ⟨19726, 0, 0⟩ }

theorem paperPaid_reachable : paperPaid.Reachable :=
  ⟨paperDraft, _, ⟨Fresh.avoiding [], _, _, rfl⟩,
    ((Relation.ReflTransGen.single
      ⟨.submit (Uuid.generated 102) ⟨19724, 0, 0⟩, ⟨2, []⟩, _, rfl⟩).tail
      ⟨.approve (Uuid.generated 103) "ok" ⟨19725, 0, 0⟩, ⟨3, []⟩, _, rfl⟩).tail
      ⟨.markPaid .bankTransfer ⟨19726, 0, 0⟩, ⟨4, []⟩, _, rfl⟩⟩

/-- `subsidyBooked` once confirmed and received by bank transfer two days later. -/
def subsidyReceived : Income :=
  { subsidyBooked with
    status := .confirmed, receipt := .received, method := some .bankTransfer
    actualReceivedAt := some ⟨19726, 0, 0⟩, confirmedAt := some ⟨19724, 0, 0⟩
    confirmedBy := some (Uuid.generated 102), version := 3, updatedAt := ⟨19726, 0, 0⟩ }

theorem subsidyReceived_reachable : subsidyReceived.Reachable :=
  ⟨subsidyDraft, _, ⟨Fresh.avoiding [], _, _, rfl⟩,
    (Relation.ReflTransGen.single
      ⟨.confirm (Uuid.generated 102) ⟨19724, 0, 0⟩, ⟨2, []⟩, _, rfl⟩).tail
      ⟨.markReceived .bankTransfer ⟨19726, 0, 0⟩, ⟨3, []⟩, _, rfl⟩⟩

/-- A paid expense and a received income at the end of their workflows: the expense keeps its
details and, whatever runs next, its payout by bank transfer on the fourth day, and the income
keeps its receipt. -/
theorem approval_workflows_after_payout :
    paperPaid.Reachable ∧ paperPaid.Approval ∧
      (∀ r', paperPaid.Step r' → r'.amount = twelveFifty ∧ r'.incurredAt = ⟨19723, 0, 0⟩) ∧
      (∀ r', Relation.ReflTransGen Expense.Step paperPaid r' →
        r'.payout = .paid ∧ r'.method = some .bankTransfer ∧ r'.paidAt = some ⟨19726, 0, 0⟩) ∧
      subsidyReceived.Reachable ∧ subsidyReceived.Approval ∧
      (∀ r', Relation.ReflTransGen Income.Step subsidyReceived r' →
        r'.receipt = .received ∧ r'.method = some .bankTransfer ∧
          r'.actualReceivedAt = some ⟨19726, 0, 0⟩) := by
  have paper := approval_workflows.1 _ paperPaid_reachable
  have subsidy := approval_workflows.2 _ subsidyReceived_reachable
  refine ⟨paperPaid_reachable, paper, fun r' step => ?_, paper.payout_fixed rfl,
    subsidyReceived_reachable, subsidy, subsidy.receipt_fixed rfl⟩
  obtain ⟨-, amount, -, incurred⟩ := paper.details_fixed (by decide) r' step
  exact ⟨amount, incurred⟩

end Subledger
