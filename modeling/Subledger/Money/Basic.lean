import Subledger.Decimal.Arith
import Subledger.Decimal.Divide
import Subledger.Error
import Subledger.Text.Blank

/-! # Money

An amount of money is a decimal tagged with one of the accepted currencies. Sums, differences
and comparisons need both sides in the same currency; arithmetic that does not fit the decimal
range is refused with `INVALID_AMOUNT` rather than rounded away.
-/

namespace Subledger

/-- The currencies the ledgers accept. -/
inductive Currency where
  | cny | usd | eur | gbp | jpy | hkd
  deriving BEq, Inhabited, DecidableEq

namespace Currency

/-- Every currency, in declaration order. -/
def all : List Currency := [.cny, .usd, .eur, .gbp, .jpy, .hkd]

/-- The ISO 4217 code. -/
def code : Currency → String
  | .cny => "CNY"
  | .usd => "USD"
  | .eur => "EUR"
  | .gbp => "GBP"
  | .jpy => "JPY"
  | .hkd => "HKD"

/-- Reads a currency code in any ASCII letter case. -/
def parse (s : String) : Outcome Currency :=
  let upper := Text.asciiUpper s
  match all.find? (fun c => c.code == upper) with
  | some c => .ok c
  | none => .error (.validation .invalidCurrency s!"unsupported currency: {upper}")

end Currency

/-- An amount in a currency. -/
structure Money where
  amount : Decimal
  currency : Currency

namespace Money

/-- An amount in yuan. -/
def cny (amount : Decimal) : Money := ⟨amount, .cny⟩

/-- Zero in a currency. -/
def zero (currency : Currency) : Money := ⟨Decimal.zero, currency⟩

/-- The amount followed by the currency code. -/
def render (m : Money) : String := s!"{m.amount} {m.currency.code}"

instance : ToString Money := ⟨render⟩

/-- Whether the amount is zero. -/
def isZero (m : Money) : Bool := m.amount.isZero

/-- Whether the amount is above zero. -/
def isPositive (m : Money) : Bool := m.amount.isPositive

/-- Whether the amount is below zero. -/
def isNegative (m : Money) : Bool := m.amount.isNegative

/-- Refuses two amounts in different currencies, naming the operation tried. -/
def sameCurrency (a b : Money) (operation : String) : Outcome Unit :=
  if a.currency == b.currency then .ok ()
  else .error (.validation .currencyMismatch
    s!"cannot {operation} money with different currencies: {a.currency.code} and {b.currency.code}")

/-- The refusal for a result outside the decimal range. -/
def overflow : DomainError := .validation .invalidAmount "money overflow"

/-- The sum of two amounts in one currency. -/
def add (a b : Money) : Outcome Money := do
  sameCurrency a b "add"
  match Decimal.add? a.amount b.amount with
  | some v => pure ⟨v, a.currency⟩
  | none => throw overflow

/-- The difference of two amounts in one currency. -/
def sub (a b : Money) : Outcome Money := do
  sameCurrency a b "subtract"
  match Decimal.sub? a.amount b.amount with
  | some v => pure ⟨v, a.currency⟩
  | none => throw overflow

/-- The amount multiplied by a factor. -/
def multiply (a : Money) (factor : Decimal) : Outcome Money :=
  match Decimal.mul? a.amount factor with
  | some v => .ok ⟨v, a.currency⟩
  | none => .error overflow

/-- The amount with its sign flipped (a zero becomes a negative zero). -/
def negate (a : Money) : Money := ⟨a.amount.neg, a.currency⟩

/-- The amount without its sign. -/
def abs (a : Money) : Money := ⟨a.amount.abs, a.currency⟩

/-- The amount rounded to `places` digits, ties away from zero. -/
def round (a : Money) (places : Nat) : Money := ⟨a.amount.roundPlaces places, a.currency⟩

end Money

/-- `part / whole * 100` rounded to two places, ties away from zero; 100 when `whole` is
zero. A ratio outside the decimal range is refused. -/
def percentage (part whole : Decimal) : Outcome Decimal :=
  if whole.isZero then .ok Decimal.hundred
  else
    match (Decimal.div? part whole).bind (fun r => Decimal.mul? r Decimal.hundred) with
    | some p => .ok (p.roundPlaces 2)
    | none => .error (.validation .invalidAmount s!"percentage of {part} over {whole} is out of range")

namespace Money

/-- This amount as a percentage of `whole`, in the same currency. -/
def percentageOf (a whole : Money) : Outcome Decimal := do
  sameCurrency a whole "compare"
  percentage a.amount whole.amount

end Money

end Subledger
