import Subledger.Error
import Subledger.Tags

/-! # States of credit and debit memos

A memo is pending until applied to ledger entries, partial while partly applied, and ends
applied, voided or refunded.
-/

namespace Subledger

/-- The state of a credit or debit memo. -/
inductive MemoStatus where
  | pending | partlyApplied | applied | voided | refunded
  deriving BEq, Inhabited, DecidableEq

namespace MemoStatus

/-- The states and their tags. -/
def tags : TagSet MemoStatus where
  all := [.pending, .partlyApplied, .applied, .voided, .refunded]
  tag
    | .pending => "PENDING"
    | .partlyApplied => "PARTIAL"
    | .applied => "APPLIED"
    | .voided => "VOIDED"
    | .refunded => "REFUNDED"

/-- The tag of a state. -/
def tag (s : MemoStatus) : String := tags.tag s

/-- Whether no further change is allowed: applied, voided or refunded. -/
def isTerminal : MemoStatus → Bool
  | .applied | .voided | .refunded => true
  | _ => false

/-- Whether the memo may be applied or refunded: pending or partial. -/
def canApply : MemoStatus → Bool
  | .pending | .partlyApplied => true
  | _ => false

/-- Reads a state by its exact tag. -/
def parse (s : String) : Outcome MemoStatus :=
  match tags.find? s with
  | some v => .ok v
  | none => .error (.validation .invalidStatus s!"unknown memo status: {s}")

end MemoStatus

end Subledger
