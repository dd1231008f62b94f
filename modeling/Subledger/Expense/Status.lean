import Subledger.Error
import Subledger.Tags

/-! # Categories and states of expenses

An expense is drafted, submitted for approval, and then approved or rejected; it may be
cancelled before a decision. An approved expense is later marked paid, once.
-/

namespace Subledger

/-- What an expense is for. -/
inductive ExpenseCategory where
  | rent | utilities | salary | office | travel | marketing | equipment | maintenance
  | insurance | tax | other
  deriving BEq, Inhabited

namespace ExpenseCategory

/-- The categories and their tags. -/
def tags : TagSet ExpenseCategory where
  all := [.rent, .utilities, .salary, .office, .travel, .marketing, .equipment, .maintenance,
    .insurance, .tax, .other]
  tag
    | .rent => "RENT"
    | .utilities => "UTILITIES"
    | .salary => "SALARY"
    | .office => "OFFICE"
    | .travel => "TRAVEL"
    | .marketing => "MARKETING"
    | .equipment => "EQUIPMENT"
    | .maintenance => "MAINTENANCE"
    | .insurance => "INSURANCE"
    | .tax => "TAX"
    | .other => "OTHER"

/-- The tag of a category. -/
def tag (c : ExpenseCategory) : String := tags.tag c

/-- Reads a category by its exact tag. -/
def parse (s : String) : Outcome ExpenseCategory :=
  match tags.find? s with
  | some v => .ok v
  | none => .error (.validation .invalidCategory "Expense category is not valid")

end ExpenseCategory

/-- The state of an expense record. -/
inductive ExpenseStatus where
  | draft | pending | approved | rejected | cancelled
  deriving BEq, Inhabited, DecidableEq

namespace ExpenseStatus

/-- The states and their tags. -/
def tags : TagSet ExpenseStatus where
  all := [.draft, .pending, .approved, .rejected, .cancelled]
  tag
    | .draft => "DRAFT"
    | .pending => "PENDING"
    | .approved => "APPROVED"
    | .rejected => "REJECTED"
    | .cancelled => "CANCELLED"

/-- The tag of a state. -/
def tag (s : ExpenseStatus) : String := tags.tag s

/-- Whether no further change is allowed: approved, rejected or cancelled. -/
def isTerminal : ExpenseStatus → Bool
  | .approved | .rejected | .cancelled => true
  | _ => false

/-- Whether the expense may be submitted: only a draft. -/
def canSubmit : ExpenseStatus → Bool
  | .draft => true
  | _ => false

/-- Whether the expense may be approved or rejected: only a submitted one. -/
def canApprove : ExpenseStatus → Bool
  | .pending => true
  | _ => false

/-- Whether the expense may be cancelled: drafted or submitted. -/
def canCancel : ExpenseStatus → Bool
  | .draft | .pending => true
  | _ => false

end ExpenseStatus

/-- Whether an approved expense has been paid out. -/
inductive PayoutStatus where
  | unpaid | paid
  deriving BEq, Inhabited, DecidableEq

namespace PayoutStatus

/-- The states and their tags. -/
def tags : TagSet PayoutStatus where
  all := [.unpaid, .paid]
  tag
    | .unpaid => "UNPAID"
    | .paid => "PAID"

/-- The tag of a state. -/
def tag (s : PayoutStatus) : String := tags.tag s

end PayoutStatus

end Subledger
