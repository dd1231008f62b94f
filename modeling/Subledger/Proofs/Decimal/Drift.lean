import Subledger.Proofs.Decimal.Quotient

/-! # How far rounded sums and differences drift

A sum or difference that does not fit is rounded to fewer places, and `fit` drops the fewest
digits it can: one digit fewer would not have fitted, so the mantissa kept is large and the
rounding moves the result by at most one part in `10 ^ 27` of it. A sum of amounts of value zero
or more thus comes out at most that much above the exact sum, and a difference whose exact value
is not positive comes out not positive.

The books of receivables, vouchers and memos draw amounts from a total: a command checks the
amount against the rounded rest `total - drawn`, and then rounds `drawn + amount`. Both
roundings together leave the amount drawn at most the total but for `total / 10 ^ 26`, however
far it had strayed before (`atMost_of_draw`).
-/

namespace Subledger

namespace Decimal

variable {a b c : Decimal}

/-- A mantissa that had to lose digits to fit was large: at least the limit less one, in units
of the last digit kept but one. -/
theorem fit_units_le {n s : Nat} {negative : Bool} (hs : s ≤ maxScale)
    (h : fit n s negative = some c) :
    (c.mantissa : ℚ) * 10 ^ (s - c.scale) ≤ n + n / 10 ^ 27 := by
  obtain ⟨-, k, le, mantissa, scale, first⟩ := fit_eq_some h
  have dropped : s - c.scale = k := by omega
  rw [dropped, mantissa]
  rcases Nat.eq_zero_or_pos k with none | some
  · subst none
    rw [roundHalfEven_zero]
    have : (0 : ℚ) ≤ n / 10 ^ 27 := by positivity
    simp
    linarith
  -- one digit fewer did not fit, so the number is large against the digits dropped
  have large : mantissaLimit ≤ roundHalfEven n (k - 1) := by
    by_contra small
    exact first (k - 1) (by omega) ⟨by omega, by omega⟩
  have lower : (mantissaLimit - 1) * 10 ^ (k - 1) ≤ n := by
    have rounded := roundHalfEven_le n (k - 1)
    simp only [Nat.pow_eq] at rounded
    have quotient : mantissaLimit - 1 ≤ n / 10 ^ (k - 1) := Nat.sub_le_of_le_add (large.trans rounded)
    exact (Nat.le_div_iff_mul_le (Nat.pow_pos (by norm_num))).mp quotient
  have upper : roundHalfEven n k * 10 ^ k ≤ n + 10 ^ k := by
    have rounded := roundHalfEven_le n k
    simp only [Nat.pow_eq] at rounded
    calc roundHalfEven n k * 10 ^ k ≤ (n / 10 ^ k + 1) * 10 ^ k := Nat.mul_le_mul_right _ rounded
      _ = n / 10 ^ k * 10 ^ k + 10 ^ k := by ring
      _ ≤ n + 10 ^ k := Nat.add_le_add_right (Nat.div_mul_le_self n _) _
  have digits : (10 : ℚ) ^ k * 10 ^ 27 ≤ n := by
    have split : (10 : ℚ) ^ k * 10 ^ 27 = 10 ^ (k - 1) * 10 ^ 28 := by
      rw [← pow_add, ← pow_add]
      congr 1
      omega
    have limit : (10 : ℚ) ^ 28 ≤ ((mantissaLimit - 1 : ℕ) : ℚ) := by
      unfold mantissaLimit
      norm_num
    rw [split]
    calc (10 : ℚ) ^ (k - 1) * 10 ^ 28 ≤ 10 ^ (k - 1) * ((mantissaLimit - 1 : ℕ) : ℚ) := by gcongr
      _ = (((mantissaLimit - 1) * 10 ^ (k - 1) : ℕ) : ℚ) := by push_cast; ring
      _ ≤ n := by exact_mod_cast lower
  have upper' : (roundHalfEven n k : ℚ) * 10 ^ k ≤ n + 10 ^ k := by exact_mod_cast upper
  have : (10 : ℚ) ^ k ≤ n / 10 ^ 27 := by
    rw [le_div_iff₀ (by positivity)]
    exact digits
  linarith

/-- A positive number that had to be rounded to fit comes out at most one part in `10 ^ 27`
above its exact value. -/
theorem fit_value_le {n s : Nat} (hs : s ≤ maxScale) (h : fit n s false = some c) :
    c.value ≤ n / 10 ^ s + n / 10 ^ s / 10 ^ 27 := by
  obtain ⟨sign, k, le, -, scale, -⟩ := fit_eq_some h
  have units := fit_units_le hs h
  have split : (10 : ℚ) ^ s = 10 ^ c.scale * 10 ^ (s - c.scale) := by
    rw [← pow_add, Nat.add_sub_cancel' (by omega)]
  have value : c.value * 10 ^ s = c.mantissa * 10 ^ (s - c.scale) := by
    rw [value_of_not_negative sign, split]
    field_simp
  have positive := ten_pow_pos s
  have bound : c.value * 10 ^ s ≤ (n / 10 ^ s + n / 10 ^ s / 10 ^ 27) * 10 ^ s := by
    rw [value]
    calc (c.mantissa : ℚ) * 10 ^ (s - c.scale) ≤ n + n / 10 ^ 27 := units
      _ = (n / 10 ^ s + n / 10 ^ s / 10 ^ 27) * 10 ^ s := by field_simp
  exact le_of_mul_le_mul_right bound positive

/-- A sum of nonzero decimals whose exact result is not negative comes out at most one part in
`10 ^ 27` above it. -/
theorem addNonzero_le (nonneg : 0 ≤ a.value + b.value) (h : addNonzero a b = some c) :
    c.value ≤ (a.value + b.value) + (a.value + b.value) / 10 ^ 27 := by
  have sum := exactSum_cast (a := a) (b := b)
  have bounded : max a.scale b.scale ≤ maxScale := max_le a.scale_le b.scale_le
  have positive := ten_pow_pos (max a.scale b.scale)
  unfold addNonzero at h
  dsimp only at h
  generalize max a.scale b.scale = s at *
  generalize a.scaledTo s + b.scaledTo s = total at *
  split at h
  · rw [make?_value h]
    have : (0 : ℚ) ≤ (a.value + b.value) / 10 ^ 27 := by positivity
    simp
    linarith
  · have notBelow : ¬total < 0 := by
      intro below
      have : (total : ℚ) < 0 := by exact_mod_cast below
      nlinarith
    have exact : ((total.natAbs : ℕ) : ℚ) / 10 ^ s = a.value + b.value := by
      rw [Nat.cast_natAbs, Int.cast_abs, sum, abs_of_nonneg (by positivity)]
      field_simp
    have rounded := fit_value_le bounded (by simpa [notBelow] using h)
    rwa [exact] at rounded

theorem addNonzero_nonpos (nonpos : a.value + b.value ≤ 0) (h : addNonzero a b = some c) :
    c.value ≤ 0 := by
  have sum := exactSum_cast (a := a) (b := b)
  have positive := ten_pow_pos (max a.scale b.scale)
  unfold addNonzero at h
  dsimp only at h
  generalize max a.scale b.scale = s at *
  generalize a.scaledTo s + b.scaledTo s = total at *
  split at h
  · rw [make?_value h]
    simp
  · rename_i nonzero
    have below : total < 0 := by
      have : (total : ℚ) ≤ 0 := by rw [sum]; nlinarith
      have : total ≤ 0 := by exact_mod_cast this
      omega
    have sign := (fit_eq_some h).1
    simp only [below, decide_true] at sign
    simp only [value, signed, sign, if_true]
    have : (0 : ℚ) ≤ c.mantissa := by positivity
    have := ten_pow_pos c.scale
    rw [Int.cast_neg, Int.cast_natCast, neg_div]
    linarith [div_nonneg ‹(0 : ℚ) ≤ c.mantissa› this.le]

/-- The sum of two decimals of value zero or more comes out at most one part in `10 ^ 27`
above the exact sum. -/
theorem add?_le (ha : 0 ≤ a.value) (hb : 0 ≤ b.value) (h : add? a b = some c) :
    c.value ≤ (a.value + b.value) + (a.value + b.value) / 10 ^ 27 := by
  have : (0 : ℚ) ≤ (a.value + b.value) / 10 ^ 27 := by positivity
  unfold add? at h
  split at h
  · rename_i zero
    cases h
    rw [value_eq_zero_iff.mpr zero]
    linarith
  split at h
  · rename_i zero
    cases h
    rw [value_eq_zero_iff.mpr zero]
    linarith
  exact addNonzero_le (by linarith) h

/-- A difference whose exact result is not negative comes out at most one part in `10 ^ 27`
above it, and one whose exact result is not positive comes out not positive. -/
theorem sub?_le (h : sub? a b = some c) :
    (0 ≤ a.value - b.value → c.value ≤ (a.value - b.value) + (a.value - b.value) / 10 ^ 27) ∧
      (a.value - b.value ≤ 0 → c.value ≤ 0) := by
  unfold sub? at h
  split at h
  · rename_i zero
    have exact : c.value = a.value - b.value := by
      rw [value_eq_zero_iff.mpr zero, zero_sub]
      split at h <;> cases h
      · rename_i vanishes
        rw [value_eq_zero_iff.mpr vanishes, neg_zero]
      · exact value_neg b
    rw [exact]
    exact ⟨fun nonneg => by linarith [div_nonneg nonneg (ten_pow_pos 27).le], id⟩
  split at h
  · rename_i zero
    cases h
    rw [value_eq_zero_iff.mpr zero, sub_zero]
    exact ⟨fun nonneg => by linarith [div_nonneg nonneg (ten_pow_pos 27).le], id⟩
  rw [sub_eq_add_neg, ← value_neg]
  exact ⟨fun nonneg => addNonzero_le nonneg h, fun nonpos => addNonzero_nonpos nonpos h⟩

theorem lt_eq_false_iff : a.lt b = false ↔ b.value ≤ a.value := by
  rw [← not_lt, ← lt_iff]
  simp

/-- `part` is at most `whole` but for rounding: above it by no more than `whole / 10 ^ 26`. -/
def AtMost (part whole : Decimal) : Prop :=
  part.value ≤ whole.value + whole.value / 10 ^ 26

theorem atMost_of_le {part whole : Decimal} (wholeNonneg : 0 ≤ whole.value)
    (le : part.value ≤ whole.value) : part.AtMost whole := by
  have : 0 ≤ whole.value / 10 ^ 26 := by positivity
  unfold AtMost
  linarith

theorem zero_atMost {whole : Decimal} (wholeNonneg : 0 ≤ whole.value) : zero.AtMost whole :=
  atMost_of_le wholeNonneg (by simpa using wholeNonneg)

theorem AtMost.mono {part₁ part₂ whole : Decimal} (le : part₁.value ≤ part₂.value)
    (atMost : part₂.AtMost whole) : part₁.AtMost whole :=
  le.trans atMost

/-- Drawing a positive amount, no more than the rounded rest `whole - part`, from `whole` into
`part` leaves the rounded new `part` at most `whole` but for rounding, however far `part`
had strayed before. -/
theorem atMost_of_draw {part whole rest amount part' : Decimal} (nonneg : 0 ≤ part.value)
    (positive : 0 < amount.value) (difference : sub? whole part = some rest)
    (within : amount.value ≤ rest.value) (sum : add? part amount = some part') :
    part'.AtMost whole := by
  obtain ⟨above, below⟩ := sub?_le difference
  -- nothing is drawn once the rest has rounded to zero or less
  have owing : 0 ≤ whole.value - part.value := by
    by_contra short
    have := below (by linarith)
    linarith
  have restBound := above owing
  have drawn : part.value + amount.value ≤ whole.value + whole.value / 10 ^ 27 := by
    have : (whole.value - part.value) / 10 ^ 27 ≤ whole.value / 10 ^ 27 := by gcongr; linarith
    linarith
  have rounded : (part.value + amount.value) / 10 ^ 27 ≤
      (whole.value + whole.value / 10 ^ 27) / 10 ^ 27 := by gcongr
  have sumBound := add?_le nonneg positive.le sum
  unfold AtMost
  linarith

end Decimal

end Subledger
