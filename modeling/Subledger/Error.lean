/-! # Domain errors

Every refusal of the domain carries an error code with a fixed wire tag. Validation errors are
about the input of one call, invariant violations about the state it meets; identifiers that do
not read, missing records and concurrency conflicts have their own kinds.
-/

namespace Subledger

/-- The reason code of a refusal. -/
inductive ErrorCode where
  | invalidReceivableNumber
  | invalidPayableNumber
  | invalidVoucherNumber
  | invalidMemoNumber
  | invalidIncomeNumber
  | invalidExpenseNumber
  | invalidCustomer
  | invalidCustomerName
  | invalidSupplier
  | invalidSupplierName
  | invalidSourceType
  | invalidSourceId
  | invalidSourceNumber
  | invalidSalesReturn
  | invalidSalesOrder
  | invalidPurchaseReturn
  | invalidPurchaseOrder
  | invalidReceivable
  | invalidPayable
  | invalidVoucher
  | invalidUser
  | invalidAmount
  | invalidQuantity
  | invalidCurrency
  | currencyMismatch
  | exceedsOutstanding
  | exceedsUnallocated
  | exceedsRemaining
  | noRemaining
  | invalidState
  | invalidStatus
  | invalidReason
  | hasPayments
  | hasAllocations
  | hasApplications
  | alreadyAllocated
  | alreadyReversed
  | alreadyReceived
  | alreadyPaid
  | invalidPaymentMethod
  | invalidMethod
  | invalidReference
  | invalidCategory
  | invalidDescription
  | invalidPolicy
  | invalidId
  | notFound
  | conflict
  deriving BEq, Inhabited

namespace ErrorCode

/-- Every code, in declaration order. -/
def all : List ErrorCode :=
  [.invalidReceivableNumber,
    .invalidPayableNumber,
    .invalidVoucherNumber,
    .invalidMemoNumber,
    .invalidIncomeNumber,
    .invalidExpenseNumber,
    .invalidCustomer,
    .invalidCustomerName,
    .invalidSupplier,
    .invalidSupplierName,
    .invalidSourceType,
    .invalidSourceId,
    .invalidSourceNumber,
    .invalidSalesReturn,
    .invalidSalesOrder,
    .invalidPurchaseReturn,
    .invalidPurchaseOrder,
    .invalidReceivable,
    .invalidPayable,
    .invalidVoucher,
    .invalidUser,
    .invalidAmount,
    .invalidQuantity,
    .invalidCurrency,
    .currencyMismatch,
    .exceedsOutstanding,
    .exceedsUnallocated,
    .exceedsRemaining,
    .noRemaining,
    .invalidState,
    .invalidStatus,
    .invalidReason,
    .hasPayments,
    .hasAllocations,
    .hasApplications,
    .alreadyAllocated,
    .alreadyReversed,
    .alreadyReceived,
    .alreadyPaid,
    .invalidPaymentMethod,
    .invalidMethod,
    .invalidReference,
    .invalidCategory,
    .invalidDescription,
    .invalidPolicy,
    .invalidId,
    .notFound,
    .conflict]

/-- The wire tag, in capitals with underscores. -/
def tag : ErrorCode → String
  | .invalidReceivableNumber => "INVALID_RECEIVABLE_NUMBER"
  | .invalidPayableNumber => "INVALID_PAYABLE_NUMBER"
  | .invalidVoucherNumber => "INVALID_VOUCHER_NUMBER"
  | .invalidMemoNumber => "INVALID_MEMO_NUMBER"
  | .invalidIncomeNumber => "INVALID_INCOME_NUMBER"
  | .invalidExpenseNumber => "INVALID_EXPENSE_NUMBER"
  | .invalidCustomer => "INVALID_CUSTOMER"
  | .invalidCustomerName => "INVALID_CUSTOMER_NAME"
  | .invalidSupplier => "INVALID_SUPPLIER"
  | .invalidSupplierName => "INVALID_SUPPLIER_NAME"
  | .invalidSourceType => "INVALID_SOURCE_TYPE"
  | .invalidSourceId => "INVALID_SOURCE_ID"
  | .invalidSourceNumber => "INVALID_SOURCE_NUMBER"
  | .invalidSalesReturn => "INVALID_SALES_RETURN"
  | .invalidSalesOrder => "INVALID_SALES_ORDER"
  | .invalidPurchaseReturn => "INVALID_PURCHASE_RETURN"
  | .invalidPurchaseOrder => "INVALID_PURCHASE_ORDER"
  | .invalidReceivable => "INVALID_RECEIVABLE"
  | .invalidPayable => "INVALID_PAYABLE"
  | .invalidVoucher => "INVALID_VOUCHER"
  | .invalidUser => "INVALID_USER"
  | .invalidAmount => "INVALID_AMOUNT"
  | .invalidQuantity => "INVALID_QUANTITY"
  | .invalidCurrency => "INVALID_CURRENCY"
  | .currencyMismatch => "CURRENCY_MISMATCH"
  | .exceedsOutstanding => "EXCEEDS_OUTSTANDING"
  | .exceedsUnallocated => "EXCEEDS_UNALLOCATED"
  | .exceedsRemaining => "EXCEEDS_REMAINING"
  | .noRemaining => "NO_REMAINING"
  | .invalidState => "INVALID_STATE"
  | .invalidStatus => "INVALID_STATUS"
  | .invalidReason => "INVALID_REASON"
  | .hasPayments => "HAS_PAYMENTS"
  | .hasAllocations => "HAS_ALLOCATIONS"
  | .hasApplications => "HAS_APPLICATIONS"
  | .alreadyAllocated => "ALREADY_ALLOCATED"
  | .alreadyReversed => "ALREADY_REVERSED"
  | .alreadyReceived => "ALREADY_RECEIVED"
  | .alreadyPaid => "ALREADY_PAID"
  | .invalidPaymentMethod => "INVALID_PAYMENT_METHOD"
  | .invalidMethod => "INVALID_METHOD"
  | .invalidReference => "INVALID_REFERENCE"
  | .invalidCategory => "INVALID_CATEGORY"
  | .invalidDescription => "INVALID_DESCRIPTION"
  | .invalidPolicy => "INVALID_POLICY"
  | .invalidId => "INVALID_ID"
  | .notFound => "NOT_FOUND"
  | .conflict => "CONFLICT"

/-- The code with the given wire tag. -/
def ofTag? (s : String) : Option ErrorCode := all.find? (fun c => c.tag == s)

end ErrorCode

/-- A refusal by the domain. -/
inductive DomainError where
  /-- The input of a call is not acceptable. -/
  | validation (code : ErrorCode) (message : String)
  /-- The call would break a rule of the current state. -/
  | invariant (code : ErrorCode) (message : String)
  /-- An identifier did not read. -/
  | invalidId (message : String)
  /-- Nothing was found. -/
  | notFound
  /-- A concurrent change was detected. -/
  | conflict (message : String)
  deriving Inhabited

namespace DomainError

/-- The refusal for a call not allowed in the current state. -/
def invalidState (message : String) : DomainError := .invariant .invalidState message

/-- The reason code. -/
def code : DomainError → ErrorCode
  | .validation c _ | .invariant c _ => c
  | .invalidId _ => .invalidId
  | .notFound => .notFound
  | .conflict _ => .conflict

/-- The name of the kind of refusal. -/
def variantName : DomainError → String
  | .validation .. => "Validation"
  | .invariant .. => "InvariantViolation"
  | .invalidId _ => "InvalidId"
  | .notFound => "NotFound"
  | .conflict _ => "Conflict"

/-- The full text of the refusal. -/
def render : DomainError → String
  | .validation c m => s!"validation failed [{c.tag}]: {m}"
  | .invariant c m => s!"invariant violated [{c.tag}]: {m}"
  | .invalidId m => s!"invalid identifier: {m}"
  | .notFound => "not found"
  | .conflict m => s!"conflict: {m}"

/-- The message: bare for validation errors and invariant violations, the full text for the
other kinds. -/
def message : DomainError → String
  | .validation _ m | .invariant _ m => m
  | e => e.render

end DomainError

/-- The result of a domain call. -/
abbrev Outcome (α : Type) := Except DomainError α

/-- Why a command did not complete: the domain refused it (nothing changed), or an unchecked
sum left the decimal range, which aborts everything that follows. -/
inductive Failure where
  /-- The domain refused the command. -/
  | refused (e : DomainError)
  /-- An unchecked sum or difference overflowed. -/
  | overflowed (message : String)
  deriving Inhabited

end Subledger
