import Subledger.Decimal.Basic

/-! # Rounding decimals

Two integer roundings of `n / 10 ^ k`: half to even, used whenever a result has more digits
than fit, and half away from zero, used when a value is rounded to a number of places. Both
are the quotient, or the quotient plus one, decided by twice the remainder.
-/

namespace Subledger

/-- `n / 10 ^ k` rounded to the nearest integer, ties going to the even neighbour. -/
def roundHalfEven (n k : Nat) : Nat :=
  let d := Nat.pow 10 k
  let q := n / d
  let twice := 2 * (n % d)
  if twice > d ∨ (twice = d ∧ q % 2 = 1) then q + 1 else q

/-- `n / 10 ^ k` rounded to the nearest integer, ties going away from zero. -/
def roundHalfAway (n k : Nat) : Nat :=
  if 2 * (n % Nat.pow 10 k) ≥ Nat.pow 10 k then n / Nat.pow 10 k + 1 else n / Nat.pow 10 k

theorem roundHalfAway_le (n k : Nat) : roundHalfAway n k ≤ n / Nat.pow 10 k + 1 := by
  unfold roundHalfAway
  split <;> omega

theorem div_pow_ten_le (n k : Nat) (hk : 1 ≤ k) : n / Nat.pow 10 k ≤ n / 10 := by
  apply Nat.div_le_div_left _ (by decide)
  calc 10 = Nat.pow 10 1 := by rfl
    _ ≤ Nat.pow 10 k := Nat.pow_le_pow_right (by decide) hk

theorem roundHalfAway_lt (n k : Nat) (hk : 1 ≤ k) (hn : n < mantissaLimit) :
    roundHalfAway n k < mantissaLimit := by
  have h1 := roundHalfAway_le n k
  have h2 := div_pow_ten_le n k hk
  unfold mantissaLimit at hn ⊢
  omega

namespace Decimal

theorem zero_lt_mantissaLimit : 0 < mantissaLimit := by
  unfold mantissaLimit
  omega

theorem places_le_maxScale {d : Decimal} {places : Nat} (h : ¬d.scale ≤ places) :
    places ≤ maxScale := by
  have := d.scale_le
  omega

theorem one_le_sub_of_not_le {a b : Nat} (h : ¬a ≤ b) : 1 ≤ a - b := by
  omega

/-- The number `± n / 10 ^ s` as a decimal: the fewest trailing digits are dropped, rounding
half to even, so that at most 28 remain after the point and the mantissa fits; `none` when no
choice fits. A result rounded to zero keeps the sign. -/
def fit (n s : Nat) (negative : Bool) : Option Decimal :=
  match (List.range (s + 1)).find?
      (fun k => decide (s - k ≤ maxScale) && decide (roundHalfEven n k < mantissaLimit)) with
  | some k => make? (roundHalfEven n k) (s - k) negative
  | none => none

/-- Rounds to `places` digits after the point, ties away from zero. A value with no more
digits than that is returned as it is; a zero takes the scale `places` and keeps its sign;
a result that rounds to zero carries no sign. -/
def roundPlaces (d : Decimal) (places : Nat) : Decimal :=
  if hs : d.scale ≤ places then d
  else if d.mantissa = 0 then ⟨0, places, d.negative, zero_lt_mantissaLimit,
    places_le_maxScale hs⟩
  else
    let m := roundHalfAway d.mantissa (d.scale - places)
    ⟨m, places, d.negative && m != 0,
      roundHalfAway_lt _ _ (one_le_sub_of_not_le hs) d.mantissa_lt, places_le_maxScale hs⟩

end Decimal

end Subledger
