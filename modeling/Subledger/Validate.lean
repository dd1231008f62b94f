import Subledger.Money.Basic
import Subledger.Ident.Uuid

/-! # Input checks

The checks every factory and command runs before it changes anything. Lengths count
characters, not bytes.
-/

namespace Subledger

namespace Validate

/-- The longest document number accepted. -/
def maxNumberLength : Nat := 50

/-- A document number is present and at most 50 characters long. -/
def documentNumber (code : ErrorCode) (label value : String) : Outcome Unit :=
  if value.isEmpty then .error (.validation code s!"{label} number cannot be empty")
  else if value.length > maxNumberLength then
    .error (.validation code s!"{label} number cannot exceed {maxNumberLength} characters")
  else .ok ()

/-- A text is not empty. -/
def nonEmpty (code : ErrorCode) (message value : String) : Outcome Unit :=
  if value.isEmpty then .error (.validation code message) else .ok ()

/-- A text has at most `max` characters. -/
def maxLength (code : ErrorCode) (label value : String) (max : Nat) : Outcome Unit :=
  if value.length > max then .error (.validation code s!"{label} cannot exceed {max} characters")
  else .ok ()

/-- An identifier is given (not nil). -/
def present (code : ErrorCode) (message : String) (id : Uuid) : Outcome Unit :=
  if id.isNil then .error (.validation code message) else .ok ()

/-- An amount is in the ledger's currency and above zero; gives its decimal value. The
currency is checked first. -/
def positiveAmount (amount : Money) (currency : Currency) (what : String) : Outcome Decimal :=
  if amount.currency != currency then
    .error (.validation .currencyMismatch
      s!"{what} is in {amount.currency.code} but the ledger is kept in {currency.code}")
  else if !amount.isPositive then .error (.validation .invalidAmount s!"{what} must be positive")
  else .ok amount.amount

/-- The longest description accepted. -/
def maxDescriptionLength : Nat := 500

/-- The details of a booking: a positive amount and a description of 1 to 500 characters, in
this order. -/
def details (amount : Money) (description : String) : Outcome Unit := do
  unless amount.isPositive do
    throw (.validation .invalidAmount "Amount must be positive")
  nonEmpty .invalidDescription "Description cannot be empty" description
  maxLength .invalidDescription "Description" description maxDescriptionLength

end Validate

end Subledger
