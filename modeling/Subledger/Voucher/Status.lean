import Subledger.Error
import Subledger.Tags

/-! # States of vouchers and payment methods

A voucher is drafted, confirmed, and then allocated to ledger entries until nothing is left;
it may be cancelled while drafted or confirmed.
-/

namespace Subledger

/-- The state of a receipt or payment voucher. -/
inductive VoucherStatus where
  | draft | confirmed | allocated | cancelled
  deriving BEq, Inhabited, DecidableEq

namespace VoucherStatus

/-- The states and their tags. -/
def tags : TagSet VoucherStatus where
  all := [.draft, .confirmed, .allocated, .cancelled]
  tag
    | .draft => "DRAFT"
    | .confirmed => "CONFIRMED"
    | .allocated => "ALLOCATED"
    | .cancelled => "CANCELLED"

/-- The tag of a state. -/
def tag (s : VoucherStatus) : String := tags.tag s

/-- Whether no further change is allowed: fully allocated or cancelled. -/
def isTerminal : VoucherStatus → Bool
  | .allocated | .cancelled => true
  | _ => false

/-- Whether the voucher may be confirmed: only a draft. -/
def canConfirm : VoucherStatus → Bool
  | .draft => true
  | _ => false

/-- Whether amounts may be allocated: confirmed or partly allocated. -/
def canAllocate : VoucherStatus → Bool
  | .confirmed | .allocated => true
  | _ => false

/-- Whether the voucher may be cancelled: drafted or confirmed. -/
def canCancel : VoucherStatus → Bool
  | .draft | .confirmed => true
  | _ => false

/-- Reads a state by its exact tag. -/
def parse (s : String) : Outcome VoucherStatus :=
  match tags.find? s with
  | some v => .ok v
  | none => .error (.validation .invalidStatus s!"unknown voucher status: {s}")

end VoucherStatus

/-- How money changed hands. -/
inductive PaymentMethod where
  | cash | bankTransfer | wechat | alipay | check | balance | other
  deriving BEq, Inhabited

namespace PaymentMethod

/-- The methods and their tags. -/
def tags : TagSet PaymentMethod where
  all := [.cash, .bankTransfer, .wechat, .alipay, .check, .balance, .other]
  tag
    | .cash => "CASH"
    | .bankTransfer => "BANK_TRANSFER"
    | .wechat => "WECHAT"
    | .alipay => "ALIPAY"
    | .check => "CHECK"
    | .balance => "BALANCE"
    | .other => "OTHER"

/-- The tag of a method. -/
def tag (m : PaymentMethod) : String := tags.tag m

/-- Reads a method by its exact tag. -/
def parse (s : String) : Outcome PaymentMethod :=
  match tags.find? s with
  | some v => .ok v
  | none => .error (.validation .invalidPaymentMethod "Payment method is not valid")

end PaymentMethod

end Subledger
