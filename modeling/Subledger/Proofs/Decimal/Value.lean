import Mathlib.Algebra.Order.Field.Rat
import Mathlib.Algebra.Order.Ring.Abs
import Mathlib.Tactic.FieldSimp
import Mathlib.Tactic.Linarith
import Mathlib.Tactic.Positivity
import Mathlib.Tactic.Ring
import Subledger.Decimal.Arith

/-! # The value of a decimal

A decimal stands for the rational number `± mantissa / 10 ^ scale`. Comparisons, the zero and
sign tests, sums and differences are read here through that value. A sum or difference is exact
whenever the exact result, written at the larger of the two scales, has a mantissa below
`2 ^ 96`; otherwise it is rounded, but never to zero unless the exact result is zero.
-/

namespace Subledger.Decimal

/-- The rational number a decimal stands for. -/
def value (d : Decimal) : ℚ := d.signed / 10 ^ d.scale

/-- A decimal whose value, written with `s` digits after the point, has a mantissa below
`2 ^ 96`: sums and differences at scale `s` up to its size are exact. -/
def FitsAt (d : Decimal) (s : Nat) : Prop := |d.value| * 10 ^ s < mantissaLimit

variable {a b c d : Decimal} {s : Nat}

theorem ten_pow_pos (s : Nat) : (0 : ℚ) < 10 ^ s := by positivity

theorem signed_eq_zero_iff : d.signed = 0 ↔ d.mantissa = 0 := by
  unfold signed
  split <;> omega

theorem signed_natAbs (d : Decimal) : d.signed.natAbs = d.mantissa := by
  unfold signed
  split <;> simp

theorem value_mul_ten_pow (d : Decimal) : d.value * 10 ^ d.scale = d.signed := by
  have := ten_pow_pos d.scale
  unfold value
  field_simp

theorem abs_value_mul_ten_pow (d : Decimal) : |d.value| * 10 ^ d.scale = d.mantissa := by
  have scaled : |d.value * 10 ^ d.scale| = |(d.signed : ℚ)| := by rw [value_mul_ten_pow]
  rw [abs_mul, abs_of_pos (ten_pow_pos _), Int.cast_abs.symm, Int.abs_eq_natAbs,
    signed_natAbs] at scaled
  exact_mod_cast scaled

@[simp] theorem value_zero : zero.value = 0 := by
  simp [value, zero, signed]

@[simp] theorem value_neg (d : Decimal) : d.neg.value = -d.value := by
  unfold value signed neg
  cases d.negative <;> simp [neg_div]

@[simp] theorem neg_scale (d : Decimal) : d.neg.scale = d.scale := rfl

@[simp] theorem neg_mantissa (d : Decimal) : d.neg.mantissa = d.mantissa := rfl

theorem value_eq_zero_iff : d.value = 0 ↔ d.mantissa = 0 := by
  have := (ten_pow_pos d.scale).ne'
  simp [value, div_eq_zero_iff, this, signed_eq_zero_iff]

theorem isZero_iff : d.isZero = true ↔ d.value = 0 := by
  simp [isZero, value_eq_zero_iff]

theorem isPositive_iff : d.isPositive = true ↔ 0 < d.value := by
  have positive := ten_pow_pos d.scale
  unfold isPositive value signed
  cases d.negative <;> simp [div_pos_iff_of_pos_right positive, Nat.pos_iff_ne_zero]

theorem value_nonneg_of_not_negative (h : d.negative = false) : 0 ≤ d.value := by
  unfold value signed
  simp only [h, Bool.false_eq_true, ↓reduceIte, Int.cast_natCast]
  positivity

/-- A decimal that is not below zero has a value of at least zero, a signed zero included. -/
theorem value_nonneg_of_isNegative_eq_false (h : d.isNegative = false) : 0 ≤ d.value := by
  cases negative : d.negative
  · exact value_nonneg_of_not_negative negative
  · have zero : d.mantissa = 0 := by simpa [isNegative, negative] using h
    rw [value_eq_zero_iff.mpr zero]

theorem scaledTo_cast (h : d.scale ≤ s) : (d.scaledTo s : ℚ) = d.value * 10 ^ s := by
  have split : (10 : ℚ) ^ s = 10 ^ d.scale * 10 ^ (s - d.scale) := by
    rw [← pow_add, Nat.add_sub_cancel' h]
  have := (ten_pow_pos d.scale).ne'
  unfold scaledTo value
  rw [split]
  push_cast [Nat.pow_eq]
  field_simp

theorem lt_iff : a.lt b = true ↔ a.value < b.value := by
  unfold lt compareValue
  simp only [beq_iff_eq, Int.compare_eq_lt]
  rw [← Int.cast_lt (R := ℚ), scaledTo_cast (le_max_left ..), scaledTo_cast (le_max_right ..)]
  exact mul_lt_mul_iff_of_pos_right (ten_pow_pos _)

/-! ## Rounding to fit -/

theorem roundHalfEven_zero (n : Nat) : roundHalfEven n 0 = n := by
  simp [roundHalfEven, Nat.mod_one]

theorem div_le_roundHalfEven (n k : Nat) : n / Nat.pow 10 k ≤ roundHalfEven n k := by
  unfold roundHalfEven
  dsimp only
  split <;> omega

theorem roundHalfEven_le (n k : Nat) : roundHalfEven n k ≤ n / Nat.pow 10 k + 1 := by
  unfold roundHalfEven
  dsimp only
  split <;> omega

theorem make?_eq_some {m : Nat} {negative : Bool} (h : make? m s negative = some c) :
    c.mantissa = m ∧ c.scale = s ∧ c.negative = negative := by
  unfold make? at h
  split at h
  · cases h
    exact ⟨rfl, rfl, rfl⟩
  · cases h

theorem make?_value {m : Nat} {negative : Bool} (h : make? m s negative = some c) :
    c.value = (if negative then -(m : ℚ) else m) / 10 ^ s := by
  obtain ⟨rfl, rfl, rfl⟩ := make?_eq_some h
  unfold value signed
  split <;> simp

theorem make?_isSome {m : Nat} (negative : Bool) (hm : m < mantissaLimit) (hs : s ≤ maxScale) :
    ∃ c, make? m s negative = some c :=
  ⟨_, dif_pos ⟨hm, hs⟩⟩

theorem fit_of_lt {n : Nat} {negative : Bool} (hs : s ≤ maxScale) (hn : n < mantissaLimit) :
    fit n s negative = make? n s negative := by
  unfold fit
  rw [List.range_succ_eq_map, List.find?_cons]
  simp [roundHalfEven_zero, hs, hn]

/-- What `fit` settles on: the fewest dropped digits `k` that make the rounded mantissa fit. -/
theorem fit_eq_some {n : Nat} {negative : Bool} (h : fit n s negative = some c) :
    c.negative = negative ∧ ∃ k ≤ s, c.mantissa = roundHalfEven n k ∧ c.scale = s - k ∧
      ∀ j < k, ¬(s - j ≤ maxScale ∧ roundHalfEven n j < mantissaLimit) := by
  unfold fit at h
  split at h
  · rename_i k found
    obtain ⟨-, range, before⟩ := List.find?_range_eq_some.mp found
    obtain ⟨mantissa, scale, sign⟩ := make?_eq_some h
    refine ⟨sign, k, by simp at range; omega, mantissa, scale, fun j lt => ?_⟩
    have := before j lt
    simp only [Bool.not_and, Bool.or_eq_true, Bool.not_eq_eq_eq_not, Bool.not_true,
      decide_eq_false_iff_not] at this
    omega
  · cases h

/-- Rounding drops only as many digits as needed, so a nonzero mantissa never rounds to zero. -/
theorem fit_mantissa_ne_zero {n : Nat} {negative : Bool} (hs : s ≤ maxScale) (hn : n ≠ 0)
    (h : fit n s negative = some c) : c.mantissa ≠ 0 := by
  obtain ⟨-, k, -, mantissa, -, before⟩ := fit_eq_some h
  rw [mantissa]
  cases k with
  | zero => simpa [roundHalfEven_zero] using hn
  | succ j =>
    -- One digit fewer did not fit, so what is left after dropping `j + 1` digits is not zero.
    have wide : mantissaLimit ≤ roundHalfEven n j := by
      have := before j (Nat.lt_succ_self j)
      omega
    have upper := roundHalfEven_le n j
    have lower := div_le_roundHalfEven n (j + 1)
    have shift : n / Nat.pow 10 (j + 1) = n / Nat.pow 10 j / 10 := by
      rw [Nat.div_div_eq_div_mul]
      rfl
    unfold mantissaLimit at wide
    omega

/-! ## Sums and differences -/

theorem cast_signed_natAbs (z : ℤ) : (if decide (z < 0) then -(z.natAbs : ℚ) else z.natAbs) = z := by
  rw [Nat.cast_natAbs, Int.cast_abs]
  split
  · rename_i negative
    rw [abs_of_neg (by exact_mod_cast of_decide_eq_true negative), neg_neg]
  · rename_i nonnegative
    rw [abs_of_nonneg (by exact_mod_cast not_lt.mp (of_decide_eq_false (by simpa using nonnegative)))]

/-- The exact sum, written as a mantissa at the larger of the two scales. -/
theorem exactSum_cast :
    ((a.scaledTo (max a.scale b.scale) + b.scaledTo (max a.scale b.scale) : ℤ) : ℚ) =
      (a.value + b.value) * 10 ^ max a.scale b.scale := by
  push_cast
  rw [scaledTo_cast (le_max_left ..), scaledTo_cast (le_max_right ..)]
  ring

theorem addNonzero_exact (fits : |a.value + b.value| * 10 ^ max a.scale b.scale < mantissaLimit) :
    ∃ c, addNonzero a b = some c ∧ c.value = a.value + b.value ∧ c.scale = max a.scale b.scale := by
  have sum := exactSum_cast (a := a) (b := b)
  have bounded : max a.scale b.scale ≤ maxScale := max_le a.scale_le b.scale_le
  have positive := ten_pow_pos (max a.scale b.scale)
  unfold addNonzero
  dsimp only
  generalize max a.scale b.scale = s at *
  generalize a.scaledTo s + b.scaledTo s = total at *
  split
  · rename_i zero
    obtain ⟨c, made⟩ := make?_isSome false zero_lt_mantissaLimit bounded
    refine ⟨c, made, ?_, (make?_eq_some made).2.1⟩
    rw [zero, Int.cast_zero] at sum
    have : a.value + b.value = 0 := by simpa [positive.ne'] using sum.symm
    rw [make?_value made, this]
    simp
  · have small : total.natAbs < mantissaLimit := by
      have : ((total.natAbs : ℕ) : ℚ) < mantissaLimit := by
        rwa [Nat.cast_natAbs, Int.cast_abs, sum, abs_mul, abs_of_pos positive]
      exact_mod_cast this
    rw [fit_of_lt bounded small]
    obtain ⟨c, made⟩ := make?_isSome (decide (total < 0)) small bounded
    refine ⟨c, made, ?_, (make?_eq_some made).2.1⟩
    rw [make?_value made, cast_signed_natAbs, sum]
    field_simp

theorem addNonzero_eq_zero (h : addNonzero a b = some c) (zero : c.mantissa = 0) :
    a.value + b.value = 0 := by
  have sum := exactSum_cast (a := a) (b := b)
  have bounded : max a.scale b.scale ≤ maxScale := max_le a.scale_le b.scale_le
  have positive := ten_pow_pos (max a.scale b.scale)
  unfold addNonzero at h
  dsimp only at h
  generalize max a.scale b.scale = s at *
  generalize a.scaledTo s + b.scaledTo s = total at *
  split at h
  · rename_i exact
    rw [exact] at sum
    simpa [positive.ne'] using sum.symm
  · rename_i nonzero
    exact absurd zero (fit_mantissa_ne_zero bounded (by omega) h)

theorem addNonzero_nonneg (nonneg : 0 ≤ a.value + b.value) (h : addNonzero a b = some c) :
    0 ≤ c.value := by
  have sum := exactSum_cast (a := a) (b := b)
  have positive := ten_pow_pos (max a.scale b.scale)
  unfold addNonzero at h
  dsimp only at h
  generalize max a.scale b.scale = s at *
  generalize a.scaledTo s + b.scaledTo s = total at *
  split at h
  · rw [make?_value h]
    simp
  · have : ¬total < 0 := by
      intro below
      have : (total : ℚ) < 0 := by exact_mod_cast below
      nlinarith
    exact value_nonneg_of_not_negative (by simpa [this] using (fit_eq_some h).1)

theorem add?_exact (fits : |a.value + b.value| * 10 ^ max a.scale b.scale < mantissaLimit) :
    ∃ c, add? a b = some c ∧ c.value = a.value + b.value ∧ c.scale ≤ max a.scale b.scale := by
  unfold add?
  split
  · rename_i zero
    exact ⟨b, rfl, by simp [value_eq_zero_iff.mpr zero], le_max_right ..⟩
  split
  · rename_i zero
    exact ⟨a, rfl, by simp [value_eq_zero_iff.mpr zero], le_max_left ..⟩
  obtain ⟨c, sum, value, scale⟩ := addNonzero_exact fits
  exact ⟨c, sum, value, scale.le⟩

theorem sub?_exact (fits : |a.value - b.value| * 10 ^ max a.scale b.scale < mantissaLimit) :
    ∃ c, sub? a b = some c ∧ c.value = a.value - b.value ∧ c.scale ≤ max a.scale b.scale := by
  unfold sub?
  split
  · rename_i zero
    split
    · rename_i zero'
      exact ⟨b, rfl, by simp [value_eq_zero_iff.mpr zero, value_eq_zero_iff.mpr zero'],
        le_max_right ..⟩
    · exact ⟨b.neg, rfl, by simp [value_eq_zero_iff.mpr zero], le_max_right ..⟩
  split
  · rename_i zero
    exact ⟨a, rfl, by simp [value_eq_zero_iff.mpr zero], le_max_left ..⟩
  obtain ⟨c, sum, value, scale⟩ :=
    addNonzero_exact (a := a) (b := b.neg) (by simpa [sub_eq_add_neg] using fits)
  exact ⟨c, sum, by rw [value, value_neg, sub_eq_add_neg], by simpa using scale.le⟩

theorem add?_nonneg (ha : 0 ≤ a.value) (hb : 0 ≤ b.value) (h : add? a b = some c) :
    0 ≤ c.value := by
  unfold add? at h
  split at h
  · cases h
    exact hb
  split at h
  · cases h
    exact ha
  exact addNonzero_nonneg (by linarith) h

/-- A difference is zero only when the two values are equal: rounding never reaches zero. -/
theorem sub?_eq_zero (h : sub? a b = some c) (isZero : c.isZero = true) : a.value = b.value := by
  have zero : c.mantissa = 0 := by simpa [Decimal.isZero] using isZero
  unfold sub? at h
  by_cases za : a.mantissa = 0 <;> by_cases zb : b.mantissa = 0
  · rw [value_eq_zero_iff.mpr za, value_eq_zero_iff.mpr zb]
  · simp only [za, zb, ↓reduceIte, Option.some.injEq] at h
    subst h
    exact absurd zero zb
  · simp only [za, zb, ↓reduceIte, Option.some.injEq] at h
    subst h
    exact absurd zero za
  · simp only [za, zb, ↓reduceIte] at h
    have := addNonzero_eq_zero h zero
    rw [value_neg] at this
    linarith

theorem sub?_zero (nonzero : d.mantissa ≠ 0) : sub? d zero = some d := by
  simp [sub?, nonzero, zero]

/-- A sum of nonzero decimals that comes out positive had a positive exact result: a rounded
mantissa carries the sign of the exact one. -/
theorem pos_of_addNonzero (h : addNonzero a b = some c) (pos : 0 < c.value) :
    0 < a.value + b.value := by
  have sum := exactSum_cast (a := a) (b := b)
  have positive := ten_pow_pos (max a.scale b.scale)
  have unsigned : c.negative = false := by
    have := isPositive_iff.mpr pos
    simp only [isPositive, Bool.and_eq_true, Bool.not_eq_eq_eq_not, Bool.not_true] at this
    exact this.1
  unfold addNonzero at h
  dsimp only at h
  generalize max a.scale b.scale = s at *
  generalize a.scaledTo s + b.scaledTo s = total at *
  split at h
  · rw [make?_value h] at pos
    simp at pos
  · rename_i nonzero
    have sign : c.negative = decide (total < 0) := (fit_eq_some h).1
    have above : (0 : ℚ) < total := by
      have : ¬total < 0 := by simpa [unsigned] using sign
      exact_mod_cast lt_of_le_of_ne (not_lt.mp this) (Ne.symm nonzero)
    rw [sum] at above
    exact pos_of_mul_pos_left above positive.le

theorem add?_pos (ha : 0 ≤ a.value) (hb : 0 < b.value) (h : add? a b = some c) :
    0 < c.value := by
  refine lt_of_le_of_ne (add?_nonneg ha hb.le h) fun zero => ?_
  unfold add? at h
  split at h
  · cases h
    exact hb.ne zero
  split at h
  · rename_i zb
    exact hb.ne' (value_eq_zero_iff.mpr zb)
  -- a zero result needs a zero exact sum, and the exact sum is at least `b`
  have := addNonzero_eq_zero h (value_eq_zero_iff.mp zero.symm)
  linarith

/-- A difference that comes out positive had a larger first operand: rounding keeps the sign
of the exact difference. -/
theorem lt_of_sub?_pos (h : sub? a b = some c) (pos : 0 < c.value) : b.value < a.value := by
  unfold sub? at h
  split at h
  · rename_i za
    rw [value_eq_zero_iff.mpr za]
    split at h
    · rename_i zb
      cases h
      exact absurd (value_eq_zero_iff.mpr zb) pos.ne'
    · cases h
      rw [value_neg] at pos
      linarith
  split at h
  · rename_i zb
    cases h
    rw [value_eq_zero_iff.mpr zb]
    exact pos
  have := pos_of_addNonzero h pos
  rw [value_neg] at this
  linarith

/-! ## Sums and differences within range -/

theorem roundHalfEven_le_of_le {n k M : Nat} (h : n ≤ M * 10 ^ k) : roundHalfEven n k ≤ M := by
  have positive : 0 < 10 ^ k := Nat.pow_pos (by decide)
  have parts := Nat.div_add_mod n (10 ^ k)
  have quotient : n / 10 ^ k ≤ M := Nat.div_le_of_le_mul (by rwa [Nat.mul_comm] at h)
  unfold roundHalfEven
  simp only [Nat.pow_eq]
  split
  · -- rounding up needs a nonzero remainder, so the quotient is below `M`
    have below : n / 10 ^ k < M := by
      by_contra! atLeast
      have := Nat.mul_le_mul_left (10 ^ k) atLeast
      have : M * 10 ^ k = 10 ^ k * M := Nat.mul_comm ..
      omega
    omega
  · exact quotient

theorem fit_isSome {n : Nat} (negative : Bool) (hn : n ≤ (mantissaLimit - 1) * 10 ^ s) : ∃ c, fit n s negative = some c := by
  have last : roundHalfEven n s < mantissaLimit := by
    have := roundHalfEven_le_of_le hn
    have := zero_lt_mantissaLimit
    omega
  unfold fit
  split
  · rename_i k found
    have holds := List.find?_some found
    simp only [Bool.and_eq_true, decide_eq_true_eq] at holds
    exact make?_isSome negative holds.2 holds.1
  · rename_i missing
    -- dropping all `s` places is always a candidate
    have := List.find?_eq_none.mp missing s (List.mem_range.mpr (Nat.lt_succ_self s))
    simp [last] at this

theorem abs_value_le (d : Decimal) : |d.value| ≤ mantissaLimit - 1 := by
  have scaled := abs_value_mul_ten_pow d
  have one : (1 : ℚ) ≤ 10 ^ d.scale := one_le_pow₀ (by norm_num)
  have below : (d.mantissa : ℚ) ≤ mantissaLimit - 1 := by
    have := d.mantissa_lt
    have : d.mantissa + 1 ≤ mantissaLimit := this
    have : ((d.mantissa + 1 : ℕ) : ℚ) ≤ mantissaLimit := by exact_mod_cast this
    push_cast at this
    linarith
  nlinarith [abs_nonneg d.value]

theorem addNonzero_isSome (bound : |a.value + b.value| ≤ mantissaLimit - 1) :
    ∃ c, addNonzero a b = some c := by
  have sum := exactSum_cast (a := a) (b := b)
  have bounded : max a.scale b.scale ≤ maxScale := max_le a.scale_le b.scale_le
  have positive := ten_pow_pos (max a.scale b.scale)
  unfold addNonzero
  dsimp only
  generalize max a.scale b.scale = s at *
  generalize a.scaledTo s + b.scaledTo s = total at *
  split
  · exact make?_isSome false zero_lt_mantissaLimit bounded
  · apply fit_isSome
    have scaled : ((total.natAbs : ℕ) : ℚ) ≤ ((mantissaLimit : ℚ) - 1) * 10 ^ s := by
      rw [Nat.cast_natAbs, Int.cast_abs, sum, abs_mul, abs_of_pos positive]
      exact mul_le_mul_of_nonneg_right bound positive.le
    have one := zero_lt_mantissaLimit
    have : ((mantissaLimit - 1 : ℕ) : ℚ) = (mantissaLimit : ℚ) - 1 := by
      rw [Nat.cast_sub one]; simp
    rw [← this] at scaled
    exact_mod_cast scaled

theorem sub?_isSome_of_nonneg (ha : 0 ≤ a.value) (hb : 0 ≤ b.value) : ∃ c, sub? a b = some c := by
  unfold sub?
  split
  · exact ⟨_, rfl⟩
  split
  · exact ⟨_, rfl⟩
  apply addNonzero_isSome
  rw [value_neg, ← sub_eq_add_neg, abs_le]
  have := abs_value_le a
  have := abs_value_le b
  rw [abs_of_nonneg ha] at *
  rw [abs_of_nonneg hb] at *
  constructor <;> linarith

/-! ## Fitting at a scale -/

theorem fitsAt_scale (d : Decimal) : d.FitsAt d.scale := by
  unfold FitsAt
  rw [abs_value_mul_ten_pow]
  exact_mod_cast d.mantissa_lt

/-- At a scale past its own, a decimal fits when its mantissa carried on to that scale stays
below the bound, a test on naturals that runs on literals. -/
theorem fitsAt_of_mantissa (le : d.scale ≤ s)
    (lt : d.mantissa * Nat.pow 10 (s - d.scale) < mantissaLimit) : d.FitsAt s := by
  unfold FitsAt
  have split : (10 : ℚ) ^ s = 10 ^ d.scale * 10 ^ (s - d.scale) := by
    rw [← pow_add, Nat.add_sub_cancel' le]
  rw [split, ← mul_assoc, abs_value_mul_ten_pow]
  rw [Nat.pow_eq] at lt
  exact_mod_cast lt

theorem FitsAt.mono {t : Nat} (h : d.FitsAt s) (le : t ≤ s) : d.FitsAt t := by
  unfold FitsAt at *
  calc |d.value| * 10 ^ t ≤ |d.value| * 10 ^ s := by
        gcongr
        · norm_num
    _ < mantissaLimit := h

theorem FitsAt.max {t : Nat} (h₁ : d.FitsAt s) (h₂ : d.FitsAt t) : d.FitsAt (max s t) := by
  rcases le_total s t with le | le
  · rwa [max_eq_right le]
  · rwa [max_eq_left le]

theorem FitsAt.of_abs_le {x : ℚ} (h : d.FitsAt s) (le : |x| ≤ |d.value|) :
    |x| * 10 ^ s < mantissaLimit :=
  lt_of_le_of_lt (mul_le_mul_of_nonneg_right le (ten_pow_pos s).le) h

/-! ## One step of a running sum against a total

A running sum that stays within a total grows by exact additions, and what is left of the
total is an exact difference, as long as the total fits at the scales of the sum and of what
is added.
-/

section Running

variable {total sum rest value sum' rest' : Decimal}

theorem add?_within (fitsSum : total.FitsAt sum.scale) (fitsValue : total.FitsAt value.scale)
    (sumNonneg : 0 ≤ sum.value) (valueNonneg : 0 ≤ value.value)
    (within : sum.value + value.value ≤ total.value) :
    ∃ sum', add? sum value = some sum' ∧ sum'.value = sum.value + value.value ∧
      total.FitsAt sum'.scale := by
  have totalNonneg : 0 ≤ total.value := by linarith
  obtain ⟨c, exactSum, sumValue, sumScale⟩ := add?_exact ((fitsSum.max fitsValue).of_abs_le
    (by rw [abs_of_nonneg (by linarith), abs_of_nonneg totalNonneg]; exact within))
  exact ⟨c, exactSum, sumValue, (fitsSum.max fitsValue).mono sumScale⟩

/-- One exact step: when the total fits at the scales of the sum and of the value, and the
value is within what is left, the new sum and the new rest are exact and still add up to the
total. -/
theorem add_sub_exact (fitsSum : total.FitsAt sum.scale) (fitsValue : total.FitsAt value.scale)
    (sumNonneg : 0 ≤ sum.value) (valueNonneg : 0 ≤ value.value)
    (conserved : sum.value + rest.value = total.value) (within : value.value ≤ rest.value)
    (added : add? sum value = some sum') (difference : sub? total sum' = some rest') :
    total.FitsAt sum'.scale ∧ sum'.value = sum.value + value.value ∧
      sum'.value + rest'.value = total.value ∧ sum'.value ≤ total.value := by
  obtain ⟨c, exactSum, sumValue, fitsNew⟩ :=
    add?_within fitsSum fitsValue sumNonneg valueNonneg (by linarith)
  rw [added, Option.some.injEq] at exactSum
  subst exactSum
  have totalNonneg : 0 ≤ total.value := by linarith
  obtain ⟨o, exactDifference, differenceValue, -⟩ := sub?_exact
    (((fitsAt_scale total).max fitsNew).of_abs_le
      (by rw [abs_of_nonneg (by linarith), abs_of_nonneg totalNonneg]; linarith))
  rw [difference, Option.some.injEq] at exactDifference
  subst exactDifference
  exact ⟨fitsNew, sumValue, by rw [differenceValue]; ring, by linarith⟩

end Running

/-! ## Checked running sums -/

/-- The checked left-to-right sum of a list of decimals, from zero; `none` once a running sum
does not fit. -/
def sum? (ds : List Decimal) : Option Decimal := ds.foldlM add? zero

@[simp] theorem sum?_nil : sum? [] = some zero := rfl

theorem sum?_append_singleton (ds : List Decimal) (d : Decimal) :
    sum? (ds ++ [d]) = (sum? ds).bind (add? · d) := by
  simp [sum?, List.foldlM_append]

theorem sum?_pos {ds : List Decimal} {total : Decimal} (pos : ∀ d ∈ ds, 0 < d.value)
    (nonempty : ds ≠ []) (h : sum? ds = some total) : 0 < total.value := by
  induction ds using List.reverseRecOn generalizing total with
  | nil => exact absurd rfl nonempty
  | append_singleton ds d ih =>
    rw [sum?_append_singleton] at h
    obtain ⟨running, partial_, added⟩ := Option.bind_eq_some_iff.mp h
    -- the running sum before the last term is zero for no terms, and positive otherwise
    have runningNonneg : 0 ≤ running.value := by
      by_cases empty : ds = []
      · subst empty
        cases partial_
        simp
      · exact (ih (fun d member => pos d (List.mem_append_left _ member)) empty partial_).le
    exact add?_pos runningNonneg (pos d (List.mem_append_right _ (List.mem_singleton_self d))) added

/-! ## Sample amounts

The amounts the sample documents are built from. `10 ^ 28 + 1` written with one place more no
longer fits the mantissa, so taking a fractional amount from it rounds.
-/

theorem one_le_maxScale : 1 ≤ maxScale := by decide

theorem two_le_maxScale : 2 ≤ maxScale := by decide

/-- `10 ^ 28 + 1`, with no places. -/
def wide : Decimal := ⟨10000000000000000000000000001, 0, false, by decide, Nat.zero_le _⟩

/-- `10 ^ 28`, with no places. -/
def octillion : Decimal := ⟨10000000000000000000000000000, 0, false, by decide, Nat.zero_le _⟩

/-- Minus one, with no places. -/
def minusOne : Decimal := ⟨1, 0, true, by decide, Nat.zero_le _⟩

/-- One half, with one place. -/
def half : Decimal := ⟨5, 1, false, by decide, one_le_maxScale⟩

/-- One and a half, with one place. -/
def threeHalves : Decimal := ⟨15, 1, false, by decide, one_le_maxScale⟩

/-- Twelve and a half, with two places. -/
def twelveFifty : Decimal := ⟨1250, 2, false, by decide, two_le_maxScale⟩

/-- Fourteen, with two places. -/
def fourteen : Decimal := ⟨1400, 2, false, by decide, two_le_maxScale⟩

/-- Twenty-five, with two places. -/
def twentyFive : Decimal := ⟨2500, 2, false, by decide, two_le_maxScale⟩

/-- Seventy-five, with two places. -/
def seventyFive : Decimal := ⟨7500, 2, false, by decide, two_le_maxScale⟩

/-- Eighty-seven and a half, with two places. -/
def eightySevenFifty : Decimal := ⟨8750, 2, false, by decide, two_le_maxScale⟩

/-- At two places a hundred is `10000` cents, far within the bound, so amounts of a hundred
take exact sums of twelve and a half. -/
theorem hundred_fitsAt_two : hundred.FitsAt twelveFifty.scale :=
  fitsAt_of_mantissa (by decide) (by decide)

end Subledger.Decimal
