import Subledger.Ledger.Status
import Subledger.Ledger.Policy
import Subledger.Decimal.Basic
import Subledger.Ident.Uuid
import Subledger.Time.Instant

/-! # Payment records

Every payment applied to a receivable or payable leaves a record: who owns it, which voucher
paid it, how much and when. Records are never deleted; a reversal marks them reversed and
stamps when and why.
-/

namespace Subledger

/-- One payment applied to a ledger entry. -/
structure PaymentRecord where
  id : Uuid
  /-- The receivable or payable paid. -/
  owner : Uuid
  /-- The voucher the money came through. -/
  voucher : Uuid
  amount : Decimal
  appliedAt : Instant
  remark : String
  status : RecordStatus
  reversedAt : Option Instant
  reversalReason : Option String

namespace PaymentRecord

/-- A new active record. -/
def new (id owner voucher : Uuid) (amount : Decimal) (remark : String) (at_ : Instant) :
    PaymentRecord :=
  ⟨id, owner, voucher, amount, at_, remark, .active, none, none⟩

/-- Whether the record still counts towards the paid amount. -/
def isActive (r : PaymentRecord) : Bool := r.status == .active

/-- Whether a reversal undid the record. -/
def isReversed (r : PaymentRecord) : Bool := r.status == .reversed

/-- Marks the record reversed with a reason and time, whatever its state. -/
def stamp (r : PaymentRecord) (reason : String) (at_ : Instant) : PaymentRecord :=
  { r with status := .reversed, reversedAt := some at_, reversalReason := some reason }

/-- Marks the record reversed. A record already reversed is refused under the `reject`
policy and stamped again under `overwrite`. -/
def markReversed (r : PaymentRecord) (reason : String) (at_ : Instant) (policy : RepeatReversal) :
    Outcome PaymentRecord :=
  if r.isReversed && policy == .reject then
    .error (.invariant .alreadyReversed s!"Payment record {r.id} is already reversed")
  else .ok (r.stamp reason at_)

end PaymentRecord

end Subledger
