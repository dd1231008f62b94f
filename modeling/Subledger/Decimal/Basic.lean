/-! # Fixed-point decimals

A decimal is a sign, a mantissa below `2 ^ 96` and a scale of at most 28 digits; its value is
`± mantissa / 10 ^ scale`. The scale is part of the value's identity: `1.50` and `1.5` compare
equal but print differently. A zero may carry the sign flag, which printing shows and comparison
ignores.
-/

namespace Subledger

/-- Every mantissa is below this bound, `2 ^ 96`. -/
def mantissaLimit : Nat := 79228162514264337593543950336

/-- At most this many digits stand after the decimal point. -/
def maxScale : Nat := 28

/-- A signed fixed-point number whose bounds are part of its type. -/
structure Decimal where
  /-- The digits of the number with the point removed. -/
  mantissa : Nat
  /-- How many of those digits stand after the point. -/
  scale : Nat
  /-- The sign flag; a zero may carry it too. -/
  negative : Bool
  mantissa_lt : mantissa < mantissaLimit
  scale_le : scale ≤ maxScale

namespace Decimal

/-- The decimal with the given parts, when they are in bounds. -/
def make? (mantissa scale : Nat) (negative : Bool) : Option Decimal :=
  if h : mantissa < mantissaLimit ∧ scale ≤ maxScale then
    some ⟨mantissa, scale, negative, h.1, h.2⟩
  else none

/-- Like `make?`, but a zero mantissa never carries the sign flag. -/
def ofParts? (mantissa scale : Nat) (negative : Bool) : Option Decimal :=
  make? mantissa scale (negative && mantissa != 0)

/-- Zero with no digits after the point. -/
def zero : Decimal := ⟨0, 0, false, by decide, by decide⟩

/-- One hundred with no digits after the point. -/
def hundred : Decimal := ⟨100, 0, false, by decide, by decide⟩

/-- A natural number below the mantissa bound, with no digits after the point. -/
def ofNat (n : Nat) (h : n < mantissaLimit) : Decimal := ⟨n, 0, false, h, by decide⟩

/-- The mantissa with the sign applied. -/
def signed (d : Decimal) : Int := if d.negative then -(d.mantissa : Int) else d.mantissa

/-- The signed mantissa rescaled to `s` digits after the point, for `s` at or above the scale. -/
def scaledTo (d : Decimal) (s : Nat) : Int := d.signed * (Nat.pow 10 (s - d.scale) : Nat)

/-- Orders decimals by value: both sides are rescaled to the larger scale. -/
def compareValue (a b : Decimal) : Ordering :=
  let s := max a.scale b.scale
  compare (a.scaledTo s) (b.scaledTo s)

/-- Whether `a` is strictly below `b` in value. -/
def lt (a b : Decimal) : Bool := compareValue a b == .lt

/-- Whether `a` is at most `b` in value. -/
def le (a b : Decimal) : Bool := compareValue a b != .gt

/-- Whether two decimals have the same value, whatever their scales and zero signs. -/
def sameValue (a b : Decimal) : Bool := compareValue a b == .eq

/-- Whether the mantissa is zero. -/
def isZero (d : Decimal) : Bool := d.mantissa == 0

/-- Whether the value is above zero. -/
def isPositive (d : Decimal) : Bool := !d.negative && d.mantissa != 0

/-- Whether the value is below zero. -/
def isNegative (d : Decimal) : Bool := d.negative && d.mantissa != 0

/-- Flips the sign flag, also on a zero. -/
def neg (d : Decimal) : Decimal := { d with negative := !d.negative }

/-- Clears the sign flag. -/
def abs (d : Decimal) : Decimal := { d with negative := false }

/-- The digits of `n` padded on the left with zeros to at least `width` characters. -/
def padDigits (n width : Nat) : List Char :=
  let digits := (toString n).toList
  List.replicate (width - digits.length) '0' ++ digits

/-- Prints the value with exactly `scale` digits after the point, a leading `0` before a point
that would otherwise start the text, and a `-` whenever the sign flag is set. -/
def render (d : Decimal) : String :=
  let digits := padDigits d.mantissa (d.scale + 1)
  let cut := digits.length - d.scale
  let body :=
    if d.scale = 0 then String.ofList digits
    else String.ofList (digits.take cut) ++ "." ++ String.ofList (digits.drop cut)
  if d.negative then "-" ++ body else body

instance : ToString Decimal := ⟨render⟩

end Decimal

end Subledger
