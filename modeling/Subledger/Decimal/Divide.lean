import Subledger.Decimal.Round

/-! # Quotients of decimals

Division produces quotient digits in blocks of at most nine, as many as still fit in 96 bits
and in 28 places, until the remainder is zero; the last digit is then rounded half to even
against the remainder. When digits had to be produced from a remainder, trailing zeros are
taken off again by `10 ^ 4`, `10 ^ 2` and `10` once each (and by `10 ^ 8` while the low 32 bits
of the quotient are all zero), so `150 / 100` is `1.50` while `7 / 0.7` is `10`.
-/

namespace Subledger

namespace Decimal

/-- The largest block of digits, at most nine and at most `28 - scale`, by which the quotient
`q` can be widened and stay below the mantissa bound. -/
def widening (q : Nat) (scale : Int) : Nat :=
  if scale ≥ 28 then 0
  else
    let room := min 9 (28 - scale).toNat
    ((List.range (room + 1)).reverse.find? (fun p => q * Nat.pow 10 p < mantissaLimit)).getD 0

/-- Drops the last digit of a quotient that reached the mantissa bound, rounding half to even
with the remainder `sticky` counting as a nonzero tail. -/
def shortenQuotient (q : Nat) (scale : Int) (sticky : Bool) : Option (Nat × Int) :=
  if scale ≤ 0 then none
  else
    let d := q / 10
    let r := q % 10
    let up := r > 5 || (r == 5 && (sticky || d % 2 == 1))
    some (if up then d + 1 else d, scale - 1)

/-- Takes off trailing zeros produced while dividing out a remainder, in the fixed order
described above. -/
def trimQuotient (q : Nat) (scale : Int) : Nat × Int :=
  let (q, scale) := trimEights q scale 4
  let (q, scale) := if q % 10000 = 0 ∧ scale ≥ 4 then (q / 10000, scale - 4) else (q, scale)
  let (q, scale) := if q % 100 = 0 ∧ scale ≥ 2 then (q / 100, scale - 2) else (q, scale)
  if q % 10 = 0 ∧ scale ≥ 1 then (q / 10, scale - 1) else (q, scale)
where
  /-- Divides by `10 ^ 8` while the low 32 bits are zero, the scale allows it and it is exact. -/
  trimEights (q : Nat) (scale : Int) : Nat → Nat × Int
    | 0 => (q, scale)
    | fuel + 1 =>
      if q % 4294967296 = 0 ∧ scale ≥ 8 ∧ q % 100000000 = 0 then
        trimEights (q / 100000000) (scale - 8) fuel
      else (q, scale)

/-- The digit loop of division by `divisor`: the quotient so far, the remainder, the scale
reached (negative while the dividend had fewer places than the divisor) and whether digits
were produced from a remainder. -/
def divideLoop (divisor : Nat) : Nat → Nat → Nat → Int → Bool → Option (Nat × Int × Bool)
  | 0, _, _, _, _ => none
  | fuel + 1, q, r, scale, unscale =>
    if r = 0 then
      if scale ≥ 0 then some (q, scale, unscale)
      else
        let p := min 9 (-scale).toNat
        if q * Nat.pow 10 p < mantissaLimit then divideLoop divisor fuel (q * Nat.pow 10 p) 0 (scale + p) unscale
        else none
    else
      let p := widening q scale
      if p < 9 ∧ scale + p < 0 then none
      else if p = 0 then
        let twice := 2 * r
        let up := twice > divisor || (twice == divisor && q % 2 == 1)
        if !up then some (q, scale, true)
        else if q + 1 < mantissaLimit then some (q + 1, scale, true)
        else (shortenQuotient (q + 1) scale false).map fun (q, s) => (q, s, true)
      else
        let wide := r * Nat.pow 10 p
        let q' := q * Nat.pow 10 p + wide / divisor
        let r' := wide % divisor
        if q' < mantissaLimit then divideLoop divisor fuel q' r' (scale + p) true
        else (shortenQuotient q' (scale + p) (r' != 0)).map fun (q, s) => (q, s, true)

/-- The quotient `a / b`, or `none` when `b` is zero or the quotient does not fit. -/
def div? (a b : Decimal) : Option Decimal :=
  if b.mantissa = 0 then none
  else if a.mantissa = 0 then some zero
  else
    match divideLoop b.mantissa 64 (a.mantissa / b.mantissa) (a.mantissa % b.mantissa)
        ((a.scale : Int) - b.scale) false with
    | none => none
    | some (q, scale, unscale) =>
      let (q, scale) := if unscale then trimQuotient q scale else (q, scale)
      ofParts? q scale.toNat (a.negative != b.negative)

end Decimal

end Subledger
