import Subledger.Error
import Subledger.Side
import Subledger.Tags

/-! # States of ledger entries and payment records

A receivable or payable is pending until paid, partial while partly paid, and ends paid,
reversed or cancelled. Payments can be applied only while pending or partial. Each payment
record is active until a reversal marks it reversed.
-/

namespace Subledger

/-- The state of a receivable or payable. -/
inductive LedgerStatus where
  | pending | partlyPaid | paid | reversed | cancelled
  deriving BEq, Inhabited, DecidableEq

namespace LedgerStatus

/-- The states and their tags. -/
def tags : TagSet LedgerStatus where
  all := [.pending, .partlyPaid, .paid, .reversed, .cancelled]
  tag
    | .pending => "PENDING"
    | .partlyPaid => "PARTIAL"
    | .paid => "PAID"
    | .reversed => "REVERSED"
    | .cancelled => "CANCELLED"

/-- The tag of a state. -/
def tag (s : LedgerStatus) : String := tags.tag s

/-- Whether no further change is allowed: paid, reversed or cancelled. -/
def isTerminal : LedgerStatus → Bool
  | .paid | .reversed | .cancelled => true
  | _ => false

/-- Whether a payment may be applied: pending or partial. -/
def canApplyPayment : LedgerStatus → Bool
  | .pending | .partlyPaid => true
  | _ => false

/-- Reads a state by its exact tag. -/
def parse (s : String) : Outcome LedgerStatus :=
  match tags.find? s with
  | some v => .ok v
  | none => .error (.validation .invalidStatus s!"unknown status: {s}")

end LedgerStatus

/-- What a receivable or payable was raised from: an order, a return, or a manual entry. -/
inductive SourceType where
  | order | returned | manual
  deriving BEq, Inhabited

namespace SourceType

/-- The source types and their tags on a side. -/
def tags (side : Side) : TagSet SourceType where
  all := [.order, .returned, .manual]
  tag
    | .order => side.pick "SALES_ORDER" "PURCHASE_ORDER"
    | .returned => side.pick "SALES_RETURN" "PURCHASE_RETURN"
    | .manual => "MANUAL"

/-- Reads a source type by its exact tag on a side. -/
def parse (side : Side) (s : String) : Outcome SourceType :=
  match (tags side).find? s with
  | some v => .ok v
  | none => .error (.validation .invalidSourceType "Source type is not valid")

end SourceType

/-- The state of one payment record. -/
inductive RecordStatus where
  | active | reversed
  deriving BEq, Inhabited, DecidableEq

namespace RecordStatus

/-- The states and their tags. -/
def tags : TagSet RecordStatus where
  all := [.active, .reversed]
  tag
    | .active => "ACTIVE"
    | .reversed => "REVERSED"

/-- The tag of a state. -/
def tag (s : RecordStatus) : String := tags.tag s

end RecordStatus

end Subledger
