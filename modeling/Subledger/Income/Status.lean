import Subledger.Error
import Subledger.Tags

/-! # Categories and states of other income

Income outside sales is drafted, then confirmed or cancelled; a confirmed income is later
marked received, once.
-/

namespace Subledger

/-- What an income is from. -/
inductive IncomeCategory where
  | investment | subsidy | interest | rental | refund | compensation | assetDisposal | other
  deriving BEq, Inhabited

namespace IncomeCategory

/-- The categories and their tags. -/
def tags : TagSet IncomeCategory where
  all := [.investment, .subsidy, .interest, .rental, .refund, .compensation, .assetDisposal,
    .other]
  tag
    | .investment => "INVESTMENT"
    | .subsidy => "SUBSIDY"
    | .interest => "INTEREST"
    | .rental => "RENTAL"
    | .refund => "REFUND"
    | .compensation => "COMPENSATION"
    | .assetDisposal => "ASSET_DISPOSAL"
    | .other => "OTHER"

/-- The tag of a category. -/
def tag (c : IncomeCategory) : String := tags.tag c

/-- Reads a category by its exact tag. -/
def parse (s : String) : Outcome IncomeCategory :=
  match tags.find? s with
  | some v => .ok v
  | none => .error (.validation .invalidCategory "Income category is not valid")

end IncomeCategory

/-- The state of an income record. -/
inductive IncomeStatus where
  | draft | confirmed | cancelled
  deriving BEq, Inhabited, DecidableEq

namespace IncomeStatus

/-- The states and their tags. -/
def tags : TagSet IncomeStatus where
  all := [.draft, .confirmed, .cancelled]
  tag
    | .draft => "DRAFT"
    | .confirmed => "CONFIRMED"
    | .cancelled => "CANCELLED"

/-- The tag of a state. -/
def tag (s : IncomeStatus) : String := tags.tag s

/-- Whether no further change is allowed: only a cancelled record. -/
def isTerminal : IncomeStatus → Bool
  | .cancelled => true
  | _ => false

/-- Whether the record may be confirmed: only a draft. -/
def canConfirm : IncomeStatus → Bool
  | .draft => true
  | _ => false

/-- Whether the record may be cancelled: only a draft. -/
def canCancel : IncomeStatus → Bool
  | .draft => true
  | _ => false

end IncomeStatus

/-- Whether the money of an income has arrived. -/
inductive ReceiptStatus where
  | pending | received
  deriving BEq, Inhabited, DecidableEq

namespace ReceiptStatus

/-- The states and their tags. -/
def tags : TagSet ReceiptStatus where
  all := [.pending, .received]
  tag
    | .pending => "PENDING"
    | .received => "RECEIVED"

/-- The tag of a state. -/
def tag (s : ReceiptStatus) : String := tags.tag s

end ReceiptStatus

end Subledger
