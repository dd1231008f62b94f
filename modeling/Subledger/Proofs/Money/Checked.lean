import Subledger.Proofs.Decimal.Quotient
import Subledger.Proofs.Ledger.Step

/-! # Checked sums and differences of money

A sum or difference of two amounts is exact at the larger of their two scales, `s`. When the
exact result does not fit, `fit` drops the fewest places that make it fit, rounding half to even:
the result is the exact one rounded at the largest scale, at most `s`, where it fits
(`Decimal.DropsFewest`). Rounding away places only lowers the mantissa, so the sum fails
exactly when even no places left do not make it fit. The zero operands the sum passes through
unchanged obey the same law, since a value that is already a decimal rounds to itself at every
scale where it fits.

Money adds the currency: a sum or difference of two currencies is refused first. Adding and
then taking away the same amount gives the first amount back whenever the sum was exact.
Main statement: `Money.checked_arithmetic`.
-/

namespace Subledger

namespace Decimal

/-! ## Rounding to the largest scale that fits -/

theorem roundHalfEven_succ_le (n j : Nat) : roundHalfEven n (j + 1) ≤ roundHalfEven n j := by
  have shift : n / Nat.pow 10 (j + 1) = n / Nat.pow 10 j / 10 := by
    rw [Nat.div_div_eq_div_mul]
    rfl
  have upper := roundHalfEven_le n (j + 1)
  have lower := div_le_roundHalfEven n j
  rcases Nat.eq_zero_or_pos (n / Nat.pow 10 j) with small | large
  · -- less than one unit of the last place kept: twice the rest is below the next unit
    have positive : 0 < Nat.pow 10 j := Nat.pow_pos (by decide)
    have below : n < Nat.pow 10 j := by
      by_contra! atLeast
      have := Nat.div_pos atLeast positive
      omega
    have wide : Nat.pow 10 (j + 1) = Nat.pow 10 j * 10 := rfl
    have rest : n % Nat.pow 10 (j + 1) = n := Nat.mod_eq_of_lt (by omega)
    have quotient : n / Nat.pow 10 (j + 1) = 0 := Nat.div_eq_of_lt (by omega)
    simp only [roundHalfEven, rest, quotient]
    split <;> omega
  · omega

theorem roundHalfEven_anti {n j k : Nat} (le : j ≤ k) : roundHalfEven n k ≤ roundHalfEven n j := by
  induction k, le using Nat.le_induction with
  | base => exact le_refl _
  | succ k _ ih => exact (roundHalfEven_succ_le n k).trans ih

theorem roundHalfEven_zero_left (k : Nat) : roundHalfEven 0 k = 0 :=
  Nat.le_zero.mp (roundHalfEven_le_of_le (by simp))

/-- Dropping `k` of the `s` places of `n / 10 ^ s`, rounding half to even, is the fewest that
makes the mantissa fit: `s - k` is the largest scale, at most `s`, at which the number fits. -/
structure DropsFewest (n s k : Nat) : Prop where
  le : k ≤ s
  fits : roundHalfEven n k < mantissaLimit
  fewest : ∀ j < k, mantissaLimit ≤ roundHalfEven n j

section Fewest

variable {n s k j : Nat}

theorem DropsFewest.le_of_fits (h : DropsFewest n s k) (fits : roundHalfEven n j < mantissaLimit) :
    k ≤ j :=
  Nat.le_of_not_lt fun lt => absurd (h.fewest j lt) (Nat.not_le.mpr fits)

theorem DropsFewest.unique {k' : Nat} (h : DropsFewest n s k) (h' : DropsFewest n s k') : k = k' :=
  Nat.le_antisymm (h.le_of_fits h'.fits) (h'.le_of_fits h.fits)

theorem dropsFewest_zero (fits : n < mantissaLimit) : DropsFewest n s 0 :=
  ⟨Nat.zero_le s, by rwa [roundHalfEven_zero], fun j lt => absurd lt (Nat.not_lt_zero j)⟩

theorem exists_dropsFewest (fits : roundHalfEven n s < mantissaLimit) : ∃ k, DropsFewest n s k := by
  have someFit : ∃ k, roundHalfEven n k < mantissaLimit := ⟨s, fits⟩
  exact ⟨Nat.find someFit, ⟨Nat.find_min' someFit fits, Nat.find_spec someFit,
    fun j lt => Nat.not_lt.mp (Nat.find_min someFit lt)⟩⟩

/-- `fit` finds no scale exactly when even no places left do not make the number fit. -/
theorem fit_eq_none_iff {negative : Bool} (hs : s ≤ maxScale) :
    fit n s negative = none ↔ mantissaLimit ≤ roundHalfEven n s := by
  unfold fit
  split
  · rename_i k found
    obtain ⟨holds, range, -⟩ := List.find?_range_eq_some.mp found
    simp only [Bool.and_eq_true, decide_eq_true_eq] at holds
    have within : k ≤ s := by simp at range; omega
    obtain ⟨c, made⟩ := make?_isSome negative holds.2 holds.1
    rw [made]
    simp only [reduceCtorEq, false_iff, not_le]
    exact lt_of_le_of_lt (roundHalfEven_anti within) holds.2
  · rename_i missing
    have last := List.find?_eq_none.mp missing s (List.mem_range.mpr (Nat.lt_succ_self s))
    simp only [Bool.and_eq_true, decide_eq_true_eq, not_and, not_lt] at last
    simp only [true_iff]
    exact last (by omega)

theorem fit_of_dropsFewest (negative : Bool) (hs : s ≤ maxScale) (fewest : DropsFewest n s k) :
    ∃ c, fit n s negative = some c ∧ c.mantissa = roundHalfEven n k ∧ c.scale = s - k ∧
      c.negative = negative := by
  cases fitted : fit n s negative with
  | none =>
    have overflow := (fit_eq_none_iff hs).mp fitted
    have anti := roundHalfEven_anti (n := n) fewest.le
    have := fewest.fits
    omega
  | some c =>
    obtain ⟨sign, k', le', mantissa, scale, before⟩ := fit_eq_some fitted
    have fewest' : DropsFewest n s k' :=
      ⟨le', mantissa ▸ c.mantissa_lt, fun j lt => Nat.le_of_not_lt fun fits =>
        before j lt ⟨by omega, fits⟩⟩
    obtain rfl := fewest.unique fewest'
    exact ⟨c, rfl, mantissa, scale, sign⟩

end Fewest

/-! ## The rounded value -/

/-- The number `units / 10 ^ s` rounded half to even after dropping `k` places. -/
def roundedUnits (units : ℤ) (s k : Nat) : ℚ :=
  units.sign * roundHalfEven units.natAbs k / 10 ^ (s - k)

section Rounded

variable {units : ℤ} {s k : Nat} {d : Decimal}

theorem sign_mul_natAbs_cast (z : ℤ) : (z.sign : ℚ) * z.natAbs = z := by
  rw [Nat.cast_natAbs, Int.cast_abs]
  exact_mod_cast Int.sign_mul_abs z

theorem roundedUnits_zero_left (s k : Nat) : roundedUnits 0 s k = 0 := by
  simp [roundedUnits]

theorem roundedUnits_zero (units : ℤ) (s : Nat) : roundedUnits units s 0 = units / 10 ^ s := by
  rw [roundedUnits, roundHalfEven_zero, Nat.sub_zero, sign_mul_natAbs_cast]

theorem fit_value (hs : s ≤ maxScale) (nonzero : units ≠ 0)
    (fewest : DropsFewest units.natAbs s k) :
    ∃ c, fit units.natAbs s (decide (units < 0)) = some c ∧ c.value = roundedUnits units s k := by
  obtain ⟨c, fitted, mantissa, scale, sign⟩ := fit_of_dropsFewest (decide (units < 0)) hs fewest
  refine ⟨c, fitted, ?_⟩
  unfold value signed roundedUnits
  rw [mantissa, scale, sign]
  rcases lt_or_gt_of_ne nonzero with negative | positive
  · simp [negative, Int.sign_eq_neg_one_of_neg negative, neg_div]
  · simp [not_lt.mpr positive.le, Int.sign_eq_one_of_pos positive]

/-- The value of a decimal written at a scale `s`: its mantissa followed by zeros, or at most
its mantissa when `s` is below its scale. -/
theorem natAbs_units (exact : (units : ℚ) = d.value * 10 ^ s) :
    ∃ m ≤ d.mantissa, units.natAbs = m * 10 ^ (s - d.scale) := by
  have scaled : (units.natAbs : ℚ) = |d.value| * 10 ^ s := by
    rw [Nat.cast_natAbs, Int.cast_abs, exact, abs_mul, abs_of_pos (ten_pow_pos s)]
  have mantissa := abs_value_mul_ten_pow d
  rcases le_or_gt d.scale s with le | gt
  · refine ⟨d.mantissa, le_refl _, ?_⟩
    have split : (10 : ℚ) ^ s = 10 ^ d.scale * 10 ^ (s - d.scale) := by
      rw [← pow_add, Nat.add_sub_cancel' le]
    have : (units.natAbs : ℚ) = d.mantissa * 10 ^ (s - d.scale) := by
      rw [scaled, split, ← mul_assoc, mantissa]
    exact_mod_cast this
  · refine ⟨units.natAbs, ?_, by simp [Nat.sub_eq_zero_of_le gt.le]⟩
    have : (units.natAbs : ℚ) ≤ d.mantissa := by
      rw [scaled, ← mantissa]
      exact mul_le_mul_of_nonneg_left (pow_le_pow_right₀ (by norm_num) gt.le) (abs_nonneg _)
    exact_mod_cast this

theorem roundHalfEven_lt_of_value (exact : (units : ℚ) = d.value * 10 ^ s) :
    roundHalfEven units.natAbs s < mantissaLimit := by
  obtain ⟨m, le, digits⟩ := natAbs_units exact
  have exactly : roundHalfEven units.natAbs (s - d.scale) = m := by
    rw [digits, roundHalfEven_of_dvd (Dvd.intro_left m rfl),
      Nat.mul_div_cancel _ (Nat.pow_pos (by norm_num))]
  calc roundHalfEven units.natAbs s ≤ roundHalfEven units.natAbs (s - d.scale) :=
        roundHalfEven_anti (Nat.sub_le s d.scale)
    _ = m := exactly
    _ < mantissaLimit := lt_of_le_of_lt le d.mantissa_lt

/-- A number that is the value of a decimal rounds to that value at the largest scale where it
fits: the places dropped are only zeros. -/
theorem roundedUnits_eq_value (exact : (units : ℚ) = d.value * 10 ^ s)
    (fewest : DropsFewest units.natAbs s k) : roundedUnits units s k = d.value := by
  obtain ⟨m, le, digits⟩ := natAbs_units exact
  have exactly : roundHalfEven units.natAbs (s - d.scale) = m := by
    rw [digits, roundHalfEven_of_dvd (Dvd.intro_left m rfl),
      Nat.mul_div_cancel _ (Nat.pow_pos (by norm_num))]
  -- the fewest places dropped are among the trailing zeros
  have few : k ≤ s - d.scale := fewest.le_of_fits (exactly ▸ lt_of_le_of_lt le d.mantissa_lt)
  have divisible : 10 ^ k ∣ units.natAbs :=
    digits ▸ Dvd.dvd.mul_left (Nat.pow_dvd_pow 10 few) m
  have split : (10 : ℚ) ^ s = 10 ^ k * 10 ^ (s - k) := by
    rw [← pow_add, Nat.add_sub_cancel' fewest.le]
  have positive := ten_pow_pos s
  calc roundedUnits units s k
      = units.sign * ((units.natAbs / 10 ^ k : ℕ) : ℚ) / 10 ^ (s - k) := by
        rw [roundedUnits, roundHalfEven_of_dvd divisible]
    _ = units.sign * units.natAbs / (10 ^ k * 10 ^ (s - k)) := by
        rw [Nat.cast_div divisible (by positivity)]
        push_cast
        ring
    _ = d.value := by
        rw [sign_mul_natAbs_cast, ← split, exact]
        field_simp

end Rounded

/-! ## Sums and differences -/

section Sum

variable {a b : Decimal} {units : ℤ} {k : Nat}

/-- The exact sum of two nonzero decimals, in units of the larger scale, is the one `units`
stands for. -/
theorem exactSum_eq (exact : (units : ℚ) = (a.value + b.value) * 10 ^ max a.scale b.scale) :
    a.scaledTo (max a.scale b.scale) + b.scaledTo (max a.scale b.scale) = units := by
  have sum := exactSum_cast (a := a) (b := b)
  rw [← exact] at sum
  exact_mod_cast sum

theorem addNonzero_eq_none_iff
    (exact : (units : ℚ) = (a.value + b.value) * 10 ^ max a.scale b.scale) :
    addNonzero a b = none ↔ mantissaLimit ≤ roundHalfEven units.natAbs (max a.scale b.scale) := by
  have total := exactSum_eq exact
  have bounded : max a.scale b.scale ≤ maxScale := max_le a.scale_le b.scale_le
  unfold addNonzero
  dsimp only
  rw [total]
  split
  · rename_i zero
    obtain ⟨c, made⟩ := make?_isSome false zero_lt_mantissaLimit bounded
    rw [made, zero, Int.natAbs_zero, roundHalfEven_zero_left]
    simp only [reduceCtorEq, false_iff, not_le]
    exact zero_lt_mantissaLimit
  · exact fit_eq_none_iff bounded

theorem addNonzero_rounded
    (exact : (units : ℚ) = (a.value + b.value) * 10 ^ max a.scale b.scale)
    (fewest : DropsFewest units.natAbs (max a.scale b.scale) k) :
    ∃ c, addNonzero a b = some c ∧ c.value = roundedUnits units (max a.scale b.scale) k := by
  have total := exactSum_eq exact
  have bounded : max a.scale b.scale ≤ maxScale := max_le a.scale_le b.scale_le
  unfold addNonzero
  dsimp only
  rw [total]
  split
  · rename_i zero
    obtain ⟨c, made⟩ := make?_isSome false zero_lt_mantissaLimit bounded
    refine ⟨c, made, ?_⟩
    rw [make?_value made, zero, roundedUnits_zero_left]
    simp
  · rename_i nonzero
    exact fit_value bounded nonzero fewest

theorem add?_eq_none_iff (exact : (units : ℚ) = (a.value + b.value) * 10 ^ max a.scale b.scale) :
    add? a b = none ↔ mantissaLimit ≤ roundHalfEven units.natAbs (max a.scale b.scale) := by
  unfold add?
  split
  · -- a zero left operand passes the right one through, whose value fits everywhere
    rename_i zero
    rw [value_eq_zero_iff.mpr zero, zero_add] at exact
    simpa using roundHalfEven_lt_of_value exact
  split
  · rename_i zero
    rw [value_eq_zero_iff.mpr zero, add_zero] at exact
    simpa using roundHalfEven_lt_of_value exact
  exact addNonzero_eq_none_iff exact

/-- A sum is its exact value rounded half to even at the largest scale where it fits. -/
theorem add?_rounded (exact : (units : ℚ) = (a.value + b.value) * 10 ^ max a.scale b.scale)
    (fewest : DropsFewest units.natAbs (max a.scale b.scale) k) :
    ∃ c, add? a b = some c ∧ c.value = roundedUnits units (max a.scale b.scale) k := by
  unfold add?
  split
  · rename_i zero
    rw [value_eq_zero_iff.mpr zero, zero_add] at exact
    exact ⟨b, rfl, (roundedUnits_eq_value exact fewest).symm⟩
  split
  · rename_i zero
    rw [value_eq_zero_iff.mpr zero, add_zero] at exact
    exact ⟨a, rfl, (roundedUnits_eq_value exact fewest).symm⟩
  exact addNonzero_rounded exact fewest

/-- A difference has the value of the sum with the negated right operand; only the sign of a
zero it passes through can differ. -/
theorem sub?_map_value (a b : Decimal) : (sub? a b).map value = (add? a b.neg).map value := by
  unfold sub? add?
  by_cases za : a.mantissa = 0
  · by_cases zb : b.mantissa = 0
    · simp [za, zb, value_eq_zero_iff.mpr zb]
    · simp [za, zb]
  · by_cases zb : b.mantissa = 0 <;> simp [za, zb]

theorem sub?_eq_none_iff (exact : (units : ℚ) = (a.value - b.value) * 10 ^ max a.scale b.scale) :
    sub? a b = none ↔ mantissaLimit ≤ roundHalfEven units.natAbs (max a.scale b.scale) := by
  rw [← Option.map_eq_none_iff, sub?_map_value, Option.map_eq_none_iff]
  exact add?_eq_none_iff (by simpa [sub_eq_add_neg] using exact)

theorem sub?_rounded (exact : (units : ℚ) = (a.value - b.value) * 10 ^ max a.scale b.scale)
    (fewest : DropsFewest units.natAbs (max a.scale b.scale) k) :
    ∃ c, sub? a b = some c ∧ c.value = roundedUnits units (max a.scale b.scale) k := by
  obtain ⟨c, added, value⟩ := add?_rounded (a := a) (b := b.neg)
    (by simpa [sub_eq_add_neg] using exact) (by simpa using fewest)
  have same := sub?_map_value a b
  rw [added, Option.map_some] at same
  obtain ⟨c', difference, sameValue⟩ := Option.map_eq_some_iff.mp same
  exact ⟨c', difference, by simpa [sameValue] using value⟩

end Sum

end Decimal

namespace Money

variable {x y r : Money}

/-! ## Money

A sum and a difference take the same three paths; one lemma per path and operation, and
`checked_of_paths` turns the paths and the decimal law into `Checked`. -/

theorem add_of_ne (differ : x.currency ≠ y.currency) :
    ∃ message, x.add y = .error (.validation .currencyMismatch message) := by
  simp [add, sameCurrency, differ]

theorem add_of_some {v : Decimal} (same : x.currency = y.currency)
    (answer : Decimal.add? x.amount y.amount = some v) : x.add y = .ok ⟨v, x.currency⟩ := by
  simp [add, sameCurrency, same, answer]

theorem add_of_none (same : x.currency = y.currency)
    (answer : Decimal.add? x.amount y.amount = none) : x.add y = .error overflow := by
  simp [add, sameCurrency, same, answer]

theorem sub_of_ne (differ : x.currency ≠ y.currency) :
    ∃ message, x.sub y = .error (.validation .currencyMismatch message) := by
  simp [sub, sameCurrency, differ]

theorem sub_of_some {v : Decimal} (same : x.currency = y.currency)
    (answer : Decimal.sub? x.amount y.amount = some v) : x.sub y = .ok ⟨v, x.currency⟩ := by
  simp [sub, sameCurrency, same, answer]

theorem sub_of_none (same : x.currency = y.currency)
    (answer : Decimal.sub? x.amount y.amount = none) : x.sub y = .error overflow := by
  simp [sub, sameCurrency, same, answer]

/-- How a checked sum or difference of `x` and `y`, whose exact amount is `q`, answers. -/
structure Checked (x y : Money) (q : ℚ) (result : Outcome Money) : Prop where
  /-- Refused with `CURRENCY_MISMATCH` exactly when the currencies differ. -/
  mismatch : (∃ message, result = .error (.validation .currencyMismatch message)) ↔
    x.currency ≠ y.currency
  /-- In one currency, `money overflow` exactly when `q`, written in units of the larger scale,
  does not fit even rounded to no places. -/
  overflow : x.currency = y.currency → ∀ units : ℤ,
    (units : ℚ) = q * 10 ^ max x.amount.scale y.amount.scale →
    (result = .error Money.overflow ↔
      mantissaLimit ≤ roundHalfEven units.natAbs (max x.amount.scale y.amount.scale))
  /-- Otherwise the currency of `x`, and `q` rounded half to even at the largest scale, at most
  the larger of the two, where it fits. -/
  rounded : x.currency = y.currency → ∀ units : ℤ,
    (units : ℚ) = q * 10 ^ max x.amount.scale y.amount.scale → ∀ k,
    Decimal.DropsFewest units.natAbs (max x.amount.scale y.amount.scale) k →
    ∃ r, result = .ok r ∧ r.currency = x.currency ∧
      r.amount.value = Decimal.roundedUnits units (max x.amount.scale y.amount.scale) k

/-- A result that is refused for different currencies, and otherwise follows a decimal
operation that obeys the law of sums, answers as `Checked` says. -/
theorem checked_of_paths {op : Decimal → Decimal → Option Decimal} {q : ℚ}
    {result : Outcome Money}
    (refused : x.currency ≠ y.currency → ∃ message,
      result = .error (.validation .currencyMismatch message))
    (succeeds : x.currency = y.currency → ∀ v, op x.amount y.amount = some v →
      result = .ok ⟨v, x.currency⟩)
    (overflows : x.currency = y.currency → op x.amount y.amount = none →
      result = .error overflow)
    (none_iff : ∀ units : ℤ, (units : ℚ) = q * 10 ^ max x.amount.scale y.amount.scale →
      (op x.amount y.amount = none ↔
        mantissaLimit ≤ roundHalfEven units.natAbs (max x.amount.scale y.amount.scale)))
    (rounded : ∀ units : ℤ, (units : ℚ) = q * 10 ^ max x.amount.scale y.amount.scale → ∀ k,
      Decimal.DropsFewest units.natAbs (max x.amount.scale y.amount.scale) k →
      ∃ c, op x.amount y.amount = some c ∧
        c.value = Decimal.roundedUnits units (max x.amount.scale y.amount.scale) k) :
    Checked x y q result where
  mismatch := by
    refine ⟨fun ⟨message, mismatched⟩ same => ?_, refused⟩
    -- in one currency the result is a value or an overflow, neither of them a mismatch
    cases answer : op x.amount y.amount with
    | none => simp [overflows same answer, overflow] at mismatched
    | some v => simp [succeeds same v answer] at mismatched
  overflow := fun same units scaled => by
    rw [← none_iff units scaled]
    constructor
    · intro failed
      cases answer : op x.amount y.amount with
      | none => rfl
      | some v => simp [succeeds same v answer] at failed
    · exact overflows same
  rounded := fun same units scaled k fewest => by
    obtain ⟨c, answer, value⟩ := rounded units scaled k fewest
    exact ⟨⟨c, x.currency⟩, succeeds same c answer, rfl, value⟩

theorem add_checked (x y : Money) : Checked x y (x.amount.value + y.amount.value) (x.add y) :=
  checked_of_paths add_of_ne (fun same _ => add_of_some same)
    add_of_none (fun _ scaled => Decimal.add?_eq_none_iff scaled)
    (fun _ scaled _ fewest => Decimal.add?_rounded scaled fewest)

theorem sub_checked (x y : Money) : Checked x y (x.amount.value - y.amount.value) (x.sub y) :=
  checked_of_paths sub_of_ne (fun same _ => sub_of_some same)
    sub_of_none (fun _ scaled => Decimal.sub?_eq_none_iff scaled)
    (fun _ scaled _ fewest => Decimal.sub?_rounded scaled fewest)

theorem Checked.exact {q : ℚ} {result : Outcome Money} (checked : Checked x y q result)
    (same : x.currency = y.currency) {units : ℤ}
    (scaled : (units : ℚ) = q * 10 ^ max x.amount.scale y.amount.scale)
    (fits : units.natAbs < mantissaLimit) :
    ∃ r, result = .ok r ∧ r.currency = x.currency ∧ r.amount.value = q := by
  obtain ⟨r, answer, currency, value⟩ :=
    checked.rounded same units scaled 0 (Decimal.dropsFewest_zero fits)
  have positive := Decimal.ten_pow_pos (max x.amount.scale y.amount.scale)
  refine ⟨r, answer, currency, ?_⟩
  rw [value, Decimal.roundedUnits_zero, scaled]
  field_simp

theorem add_eq_ok (added : x.add y = .ok r) :
    x.currency = y.currency ∧ r.currency = x.currency := by
  by_cases same : x.currency = y.currency
  · cases answer : Decimal.add? x.amount y.amount with
    | none => simp [add_of_none same answer] at added
    | some v =>
      rw [add_of_some same answer, Except.ok.injEq] at added
      exact ⟨same, added ▸ rfl⟩
  · obtain ⟨message, refused⟩ := add_of_ne same
    simp [refused] at added

/-- Taking away what was added gives the first amount back, in its currency, whenever the sum
was exact: the difference is exact too, since the first amount fits at every scale at or above
its own. -/
theorem add_sub_cancel_of_exact (added : x.add y = .ok r)
    (exact : r.amount.value = x.amount.value + y.amount.value) :
    ∃ r', r.sub y = .ok r' ∧ r'.currency = x.currency ∧ r'.amount.value = x.amount.value := by
  obtain ⟨same, currency⟩ := add_eq_ok added
  -- the exact difference, in units of the larger of the two scales, is the first amount
  have scaled : ((r.amount.scaledTo (max r.amount.scale y.amount.scale) -
      y.amount.scaledTo (max r.amount.scale y.amount.scale) : ℤ) : ℚ) =
      x.amount.value * 10 ^ max r.amount.scale y.amount.scale := by
    push_cast
    rw [Decimal.scaledTo_cast (le_max_left ..), Decimal.scaledTo_cast (le_max_right ..), exact]
    ring
  obtain ⟨k, fewest⟩ := Decimal.exists_dropsFewest (Decimal.roundHalfEven_lt_of_value scaled)
  obtain ⟨r', answer, currency', value⟩ := (sub_checked r y).rounded (currency.trans same) _
    (by rw [scaled, exact]; ring) k fewest
  exact ⟨r', answer, currency'.trans currency,
    value.trans (Decimal.roundedUnits_eq_value scaled fewest)⟩

/-- Checked money arithmetic. A sum or difference is refused with `CURRENCY_MISMATCH` exactly
when the currencies differ; otherwise it overflows with `INVALID_AMOUNT` exactly when the exact
result does not fit even rounded to no places, and else gives the currency of the left amount
with the exact result rounded half to even at the largest scale, at most the larger of the two
scales, where it fits: the exact result itself when it fits there (`Checked.exact`). Taking away
what was added gives the first amount back whenever the sum was exact. -/
theorem checked_arithmetic (x y : Money) :
    Checked x y (x.amount.value + y.amount.value) (x.add y) ∧
      Checked x y (x.amount.value - y.amount.value) (x.sub y) ∧
      ∀ r, x.add y = .ok r → r.amount.value = x.amount.value + y.amount.value →
        ∃ r', r.sub y = .ok r' ∧ r'.currency = x.currency ∧ r'.amount.value = x.amount.value :=
  ⟨add_checked x y, sub_checked x y, fun _ added exact => add_sub_cancel_of_exact added exact⟩

/-- One yuan fifty, at one place. -/
def yuanFifty : Money := ⟨Decimal.threeHalves, .cny⟩

/-- Twelve yuan fifty, at two places. -/
def twelveYuanFifty : Money := ⟨Decimal.twelveFifty, .cny⟩

/-- Fourteen yuan, at two places. -/
def fourteenYuan : Money := ⟨Decimal.fourteen, .cny⟩

/-- `1.5 + 12.50` is exactly `14.00`, and taking `12.50` away again gives `1.50`: the first
amount by value, at the larger scale. -/
theorem checked_arithmetic_of_yuan :
    (yuanFifty.add twelveYuanFifty = .ok fourteenYuan ∧
        fourteenYuan.amount.value = yuanFifty.amount.value + twelveYuanFifty.amount.value) ∧
      ∃ r', fourteenYuan.sub twelveYuanFifty = .ok r' ∧ r'.currency = yuanFifty.currency ∧
        r'.amount.value = yuanFifty.amount.value := by
  have added : yuanFifty.add twelveYuanFifty = .ok fourteenYuan := rfl
  have exact :
      fourteenYuan.amount.value = yuanFifty.amount.value + twelveYuanFifty.amount.value := by
    norm_num [fourteenYuan, yuanFifty, twelveYuanFifty, Decimal.threeHalves, Decimal.fourteen,
      Decimal.twelveFifty, Decimal.value, Decimal.signed]
  exact ⟨⟨added, exact⟩,
    (checked_arithmetic yuanFifty twelveYuanFifty).2.2 fourteenYuan added exact⟩

end Money

end Subledger
