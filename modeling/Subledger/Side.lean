/-! # The two sides of the books

Sales and purchases are kept in two ledgers of the same form. On the sales side customers owe
receivables, pay them with receipt vouchers and are credited by credit memos; on the purchases
side the company owes payables to suppliers, pays them with payment vouchers and is credited by
debit memos. The rules are the same on both sides; only names and messages differ.
-/

namespace Subledger

/-- Which half of the books a ledger entry, voucher or memo belongs to. -/
inductive Side where
  /-- Amounts customers owe: receivables, receipt vouchers, credit memos. -/
  | sales
  /-- Amounts owed to suppliers: payables, payment vouchers, debit memos. -/
  | purchases
  deriving BEq, Inhabited, DecidableEq

namespace Side

/-- Picks the sales or the purchases variant of a name. -/
def pick (side : Side) (sales purchases : α) : α :=
  match side with
  | .sales => sales
  | .purchases => purchases

/-- `receivable` or `payable`. -/
def entryNoun (side : Side) : String := side.pick "receivable" "payable"

/-- `Receivable` or `Payable`. -/
def entryLabel (side : Side) : String := side.pick "Receivable" "Payable"

/-- `customer` or `supplier`. -/
def partyNoun (side : Side) : String := side.pick "customer" "supplier"

/-- `Customer` or `Supplier`. -/
def partyLabel (side : Side) : String := side.pick "Customer" "Supplier"

/-- `receipt_voucher` or `payment_voucher`. -/
def voucherNoun (side : Side) : String := side.pick "receipt_voucher" "payment_voucher"

/-- `Receipt voucher` or `Payment voucher`. -/
def voucherLabel (side : Side) : String := side.pick "Receipt voucher" "Payment voucher"

/-- `credit` or `debit`. -/
def memoKind (side : Side) : String := side.pick "credit" "debit"

/-- `sales` or `purchase`, the prefix of the source documents of a memo. -/
def sourcePrefix (side : Side) : String := side.pick "sales" "purchase"

end Side

end Subledger
