import Subledger.Decimal.Round

/-! # Sums and products of decimals

Sums are exact at the larger of the two scales and products exact at the sum of the scales;
a result with too many digits loses its last ones by rounding half to even (`Decimal.fit`).
A zero operand short-cuts the work: the other operand comes back unchanged, scale and sign
included. An exact zero sum is positive. A product that rounds to zero keeps its sign unless
both mantissas are small (the narrow path of the computation, which builds a plain zero).
-/

namespace Subledger

namespace Decimal

/-- Mantissas below `2 ^ 32` take the narrow path of multiplication. -/
def narrowLimit : Nat := 4294967296

/-- A zero loses its sign; any other value is unchanged. -/
def dropZeroSign (d : Decimal) : Decimal :=
  if d.mantissa = 0 then { d with negative := false } else d

/-- The sum of two nonzero decimals. -/
def addNonzero (a b : Decimal) : Option Decimal :=
  let s := max a.scale b.scale
  let total := a.scaledTo s + b.scaledTo s
  if total = 0 then make? 0 s false
  else fit total.natAbs s (total < 0)

/-- The sum, or `none` when it does not fit. -/
def add? (a b : Decimal) : Option Decimal :=
  if a.mantissa = 0 then some b
  else if b.mantissa = 0 then some a
  else addNonzero a b

/-- The difference, or `none` when it does not fit. Subtracting from a zero gives the negated
right operand, unless that is a zero too, which comes back unchanged. -/
def sub? (a b : Decimal) : Option Decimal :=
  if a.mantissa = 0 then some (if b.mantissa = 0 then b else b.neg)
  else if b.mantissa = 0 then some a
  else addNonzero a b.neg

/-- The product, or `none` when it does not fit. A zero operand gives a plain zero. On the
narrow path a product with more than 47 digits after the point is a plain zero and any other
that rounds to zero is positive; off it, a product that rounds to zero keeps the sign. -/
def mul? (a b : Decimal) : Option Decimal :=
  if a.mantissa = 0 ∨ b.mantissa = 0 then some zero
  else if a.mantissa < narrowLimit ∧ b.mantissa < narrowLimit then
    if a.scale + b.scale > 47 then some zero
    else (fit (a.mantissa * b.mantissa) (a.scale + b.scale) (a.negative != b.negative)).map
      dropZeroSign
  else fit (a.mantissa * b.mantissa) (a.scale + b.scale) (a.negative != b.negative)

end Decimal

end Subledger
