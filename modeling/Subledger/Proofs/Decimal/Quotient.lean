import Mathlib.Data.Nat.Cast.Field
import Mathlib.Data.Rat.Floor
import Subledger.Proofs.Decimal.Value
import Subledger.Decimal.Divide

/-! # Quotients, and products by a hundred, of decimals

For a dividend of value zero or more and a positive divisor whose quotient stays below the
mantissa limit at 28 places, division gives that quotient rounded half to even at 28 places:
the digit loop widens the quotient until the remainder is gone or 28 places are reached, and
then rounds its last digit, while trimming zeros off afterwards keeps the number. `quotientDigits`
counts the rounded quotient in units of `10 ^ -28`, as a function of the two operands' values.

A hundred times such a quotient is exact. Rounding a decimal to a number of places goes half
away from zero: for a value zero or more it is the floor of the value in those units plus one
half, and a negative value rounds as its opposite does.

Main statements: `div?_spec`, `quotientDigits_mono`, `quotientDigits_le`, `mul?_hundred`,
`value_roundPlaces`.
-/

namespace Subledger

/-! ## Rounding a quotient to the nearest integer -/

/-- `n / d` rounded to the nearest integer, ties going to the even neighbour. -/
def roundDivHalfEven (n d : Nat) : Nat :=
  if 2 * (n % d) > d ∨ (2 * (n % d) = d ∧ n / d % 2 = 1) then n / d + 1 else n / d

variable {n n₁ n₂ d : Nat}

theorem div_le_roundDivHalfEven : n / d ≤ roundDivHalfEven n d := by
  unfold roundDivHalfEven
  split <;> omega

theorem roundDivHalfEven_le : roundDivHalfEven n d ≤ n / d + 1 := by
  unfold roundDivHalfEven
  split <;> omega

theorem roundDivHalfEven_mul (q : Nat) (hd : 0 < d) : roundDivHalfEven (q * d) d = q := by
  simp [roundDivHalfEven, Nat.mul_mod_left, Nat.mul_div_cancel _ hd]
  omega

theorem roundDivHalfEven_mono (h : n₁ ≤ n₂) :
    roundDivHalfEven n₁ d ≤ roundDivHalfEven n₂ d := by
  have quotients : n₁ / d ≤ n₂ / d := Nat.div_le_div_right h
  rcases Nat.lt_or_eq_of_le quotients with below | same
  · calc roundDivHalfEven n₁ d ≤ n₁ / d + 1 := roundDivHalfEven_le
      _ ≤ n₂ / d := below
      _ ≤ roundDivHalfEven n₂ d := div_le_roundDivHalfEven
  · -- with the same quotient the remainders keep the order, and so do the decisions to round up
    have parts₁ := Nat.div_add_mod n₁ d
    have parts₂ := Nat.div_add_mod n₂ d
    have remainders : n₁ % d ≤ n₂ % d := by
      rw [same] at parts₁
      omega
    unfold roundDivHalfEven
    rw [same]
    split_ifs <;> omega

theorem roundDivHalfEven_le_of_le {M : Nat} (bound : n ≤ d * M) : roundDivHalfEven n d ≤ M := by
  rcases Nat.eq_zero_or_pos d with zero | hd
  · subst zero
    simp at bound
    simp [roundDivHalfEven, bound]
  have quotient : n / d ≤ M := Nat.div_le_of_le_mul bound
  rcases Nat.lt_or_eq_of_le quotient with below | exact
  · exact le_trans roundDivHalfEven_le below
  · -- at the bound the division is exact
    have parts := Nat.div_add_mod n d
    rw [exact] at parts
    have remainder : n % d = 0 := by omega
    unfold roundDivHalfEven
    rw [remainder, exact]
    split_ifs <;> omega

theorem roundDivHalfEven_lt {D : Nat} (hD : 0 < D) (bound : n < D * (mantissaLimit - 1)) :
    roundDivHalfEven n D < mantissaLimit := by
  have quotient : n / D < mantissaLimit - 1 :=
    (Nat.div_lt_iff_lt_mul hD).mpr (by rwa [Nat.mul_comm] at bound)
  have rounded := roundDivHalfEven_le (n := n) (d := D)
  have positive := Decimal.zero_lt_mantissaLimit
  generalize mantissaLimit = limit at *
  omega

namespace Decimal

/-! ## The digit loop -/

theorem widening_eq {q k : Nat} (positive : 0 < k) (fits : q * 10 ^ min 9 k < mantissaLimit) :
    widening q (28 - k) = min 9 k := by
  have notLast : ¬((28 : Int) - k ≥ 28) := by omega
  have room : ((28 : Int) - (28 - k)).toNat = k := by omega
  simp only [widening, notLast, if_false, room]
  rw [List.range_succ, List.reverse_append]
  simp [Nat.pow_eq, fits]

variable {D fuel q r k : Nat} {unscale : Bool}

/-- With no remainder at a scale of zero or more, the loop stops with what it has. -/
theorem divideLoop_exact (within : k ≤ 28) :
    divideLoop D (fuel + 1) q 0 (28 - k) unscale = some (q, (28 : Int) - k, unscale) := by
  simp [divideLoop, Nat.not_lt.mpr within]

/-- At 28 places the loop rounds its last digit against the remainder. -/
theorem divideLoop_round (below : r < D) (nonzero : r ≠ 0) (fits : q + 1 < mantissaLimit) :
    divideLoop D (fuel + 1) q r 28 unscale =
      some (roundDivHalfEven (q * D + r) D, 28, true) := by
  have quotient : (q * D + r) / D = q := by
    rw [Nat.add_comm, Nat.add_mul_div_right _ _ (by omega), Nat.div_eq_of_lt below, Nat.zero_add]
  have remainder : (q * D + r) % D = r := by
    rw [Nat.add_comm, Nat.add_mul_mod_self_right, Nat.mod_eq_of_lt below]
  have noRoom : widening q 28 = 0 := by simp [widening]
  simp only [divideLoop, nonzero, if_false, noRoom, roundDivHalfEven, quotient, remainder]
  -- the loop's test for rounding up is the nearest-integer rule
  by_cases up : 2 * r > D ∨ 2 * r = D ∧ q % 2 = 1 <;> simp [up, fits] <;> omega

/-- Below 28 places the loop widens the quotient by as many digits as it can, at most nine. -/
theorem divideLoop_widen (nonzero : r ≠ 0) (positive : 0 < k)
    (fits : q * 10 ^ min 9 k < mantissaLimit)
    (fitsWide : q * 10 ^ min 9 k + r * 10 ^ min 9 k / D < mantissaLimit) :
    divideLoop D (fuel + 1) q r (28 - k) unscale =
      divideLoop D fuel (q * 10 ^ min 9 k + r * 10 ^ min 9 k / D) (r * 10 ^ min 9 k % D)
        (28 - (k - min 9 k : Nat)) true := by
  have scale : (28 : Int) - k + (min 9 k : Nat) = 28 - (k - min 9 k : Nat) := by omega
  have reaches : ¬(min 9 k < 9 ∧ (28 : Int) - (k - min 9 k : Nat) < 0) := by omega
  have widens : min 9 k ≠ 0 := by omega
  simp only [divideLoop, nonzero, if_false, widening_eq positive fits, Nat.pow_eq, widens,
    fitsWide, if_true, scale, reaches]

/-- What the quotient so far bounds: below the limit less one, after the digits still to come. -/
theorem quotient_lt_of_bound (bound : (q * D + r) * 10 ^ k < D * (mantissaLimit - 1)) :
    q * 10 ^ k < mantissaLimit - 1 := by
  have scaled : D * (q * 10 ^ k) ≤ (q * D + r) * 10 ^ k := by
    calc D * (q * 10 ^ k) = q * D * 10 ^ k := by ring
      _ ≤ (q * D + r) * 10 ^ k := Nat.mul_le_mul_right _ (Nat.le_add_right _ _)
  exact Nat.lt_of_mul_lt_mul_left (lt_of_le_of_lt scaled bound)

/-- Widening by `p` digits: the new quotient and remainder stand for the old ones times `10 ^ p`. -/
theorem widened_parts (p : Nat) :
    (q * 10 ^ p + r * 10 ^ p / D) * D + r * 10 ^ p % D = (q * D + r) * 10 ^ p := by
  have parts := Nat.div_add_mod (r * 10 ^ p) D
  calc (q * 10 ^ p + r * 10 ^ p / D) * D + r * 10 ^ p % D
      = q * D * 10 ^ p + (D * (r * 10 ^ p / D) + r * 10 ^ p % D) := by ring
    _ = (q * D + r) * 10 ^ p := by rw [parts]; ring

/-- The digit loop of a division whose quotient is below the limit less one, with enough fuel
for the places still to come: it ends with the dividend over the divisor rounded half to even
at 28 places, written with `j` of them taken off. -/
theorem divideLoop_spec (hD : 0 < D) :
    ∀ (fuel q r k : Nat) (unscale : Bool), r < D → 0 < q * D + r →
      (q * D + r) * 10 ^ k < D * (mantissaLimit - 1) → k + 8 < 9 * fuel →
      ∃ (q' j : Nat) (u : Bool), j ≤ 28 ∧
        divideLoop D fuel q r ((28 : Int) - k) unscale = some (q', (28 : Int) - j, u) ∧
        q' * 10 ^ j = roundDivHalfEven ((q * D + r) * 10 ^ k) D := by
  intro fuel
  -- one widening per round of fuel, until the remainder is gone or 28 places are reached
  induction fuel with
  | zero => intros; omega
  | succ fuel ih =>
    intro q r k unscale below positive bound enough
    have quotientBound := quotient_lt_of_bound bound
    by_cases exact : r = 0
    · subst exact
      -- with nothing left over the quotient is at least one, so no places are missing
      have atLeastOne : 0 < q := Nat.pos_of_ne_zero fun zero => by simp [zero] at positive
      have powers : 10 ^ k < 10 ^ 29 :=
        calc 10 ^ k ≤ q * 10 ^ k := Nat.le_mul_of_pos_left _ atLeastOne
          _ < mantissaLimit - 1 := quotientBound
          _ < 10 ^ 29 := by unfold mantissaLimit; norm_num
      have within : k ≤ 28 := by
        have := (Nat.pow_lt_pow_iff_right (by norm_num)).mp powers
        omega
      refine ⟨q, k, unscale, within, divideLoop_exact within, ?_⟩
      rw [Nat.add_zero, Nat.mul_right_comm, roundDivHalfEven_mul _ hD]
    by_cases last : k = 0
    · subst last
      have fits : q + 1 < mantissaLimit := by simp at quotientBound; omega
      refine ⟨roundDivHalfEven (q * D + r) D, 0, true, by omega, ?_, by simp⟩
      simpa using divideLoop_round below exact fits
    have fits : q * 10 ^ min 9 k < mantissaLimit := by
      have : q * 10 ^ min 9 k ≤ q * 10 ^ k :=
        Nat.mul_le_mul_left _ (Nat.pow_le_pow_right (by norm_num) (min_le_right _ _))
      omega
    have parts := widened_parts (q := q) (r := r) (D := D) (min 9 k)
    have wideBound : (q * D + r) * 10 ^ min 9 k * 10 ^ (k - min 9 k) = (q * D + r) * 10 ^ k := by
      rw [Nat.mul_assoc, ← Nat.pow_add, Nat.add_sub_cancel' (min_le_right _ _)]
    have fitsWide : q * 10 ^ min 9 k + r * 10 ^ min 9 k / D < mantissaLimit := by
      have := quotient_lt_of_bound (k := k - min 9 k)
        (q := q * 10 ^ min 9 k + r * 10 ^ min 9 k / D) (r := r * 10 ^ min 9 k % D)
        (by rw [parts, wideBound]; exact bound)
      have : q * 10 ^ min 9 k + r * 10 ^ min 9 k / D ≤
          (q * 10 ^ min 9 k + r * 10 ^ min 9 k / D) * 10 ^ (k - min 9 k) :=
        Nat.le_mul_of_pos_right _ (Nat.pow_pos (by norm_num))
      omega
    rw [divideLoop_widen exact (by omega) fits fitsWide]
    obtain ⟨q', j, u, hj, run, value⟩ := ih _ _ (k - min 9 k) true (Nat.mod_lt _ hD)
      (by rw [parts]; exact Nat.mul_pos positive (Nat.pow_pos (by norm_num)))
      (by rw [parts, wideBound]; exact bound) (by omega)
    refine ⟨q', j, u, hj, run, ?_⟩
    rw [value, parts, wideBound]

/-! ## Trimming trailing zeros -/

/-- `(q', s')` writes the quotient `q` at `t` places with trailing zeros taken off: the same
number at no more places and no fewer than zero. -/
def Trimmed (q t : Nat) (p : Nat × Int) : Prop :=
  ∃ q' t' : Nat, t' ≤ t ∧ p = (q', (t' : Int)) ∧ q' * 10 ^ (t - t') = q

theorem trimmed_self (q t : Nat) : Trimmed q t (q, t) := ⟨q, t, le_rfl, rfl, by simp⟩

/-- Taking `m` trailing zeros off, when there are that many and as many places, keeps the
number. -/
theorem Trimmed.drop {q t n : Nat} {s : Int} (trimmed : Trimmed q t (n, s)) (d : Nat) (m : Int)
    (nonneg : 0 ≤ m) (power : d = 10 ^ m.toNat) :
    Trimmed q t (if n % d = 0 ∧ s ≥ m then (n / d, s - m) else (n, s)) := by
  obtain ⟨q', t', le, same, value⟩ := trimmed
  obtain ⟨rfl, rfl⟩ := Prod.mk.inj same
  split_ifs with drops
  · obtain ⟨divisible, enough⟩ := drops
    refine ⟨n / d, t' - m.toNat, by omega, by simp; omega, ?_⟩
    have split : n = n / d * 10 ^ m.toNat := by
      rw [← power]
      exact (Nat.div_mul_cancel (Nat.dvd_of_mod_eq_zero divisible)).symm
    have exponent : t - (t' - m.toNat) = m.toNat + (t - t') := by omega
    calc n / d * 10 ^ (t - (t' - m.toNat)) = n / d * 10 ^ m.toNat * 10 ^ (t - t') := by
          rw [exponent, Nat.pow_add, Nat.mul_assoc]
      _ = q := by rw [← split, value]
  · exact ⟨n, t', le, rfl, value⟩

theorem trimmed_trimEights {q t : Nat} {p : Nat × Int} (trimmed : Trimmed q t p) (fuel : Nat) :
    Trimmed q t (trimQuotient.trimEights p.1 p.2 fuel) := by
  induction fuel generalizing p with
  | zero => simpa [trimQuotient.trimEights] using trimmed
  | succ fuel ih =>
    simp only [trimQuotient.trimEights]
    split_ifs with drops
    · obtain ⟨q', t', le, rfl, value⟩ := trimmed
      have dropped := Trimmed.drop (n := q') (s := t') ⟨q', t', le, rfl, value⟩ 100000000 8
        (by norm_num) rfl
      rw [if_pos ⟨drops.2.2, drops.2.1⟩] at dropped
      exact ih dropped
    · exact trimmed

theorem trimmed_trimQuotient (q t : Nat) : Trimmed q t (trimQuotient q t) := by
  unfold trimQuotient
  obtain ⟨q₁, t₁, le₁, eights, value₁⟩ := trimmed_trimEights (trimmed_self q t) 4
  have trimmed₁ : Trimmed q t (q₁, t₁) := ⟨q₁, t₁, le₁, rfl, value₁⟩
  rw [eights]
  dsimp only
  obtain ⟨q₂, t₂, le₂, eq₂, value₂⟩ := trimmed₁.drop 10000 4 (by norm_num) rfl
  rw [eq₂]
  dsimp only
  obtain ⟨q₃, t₃, le₃, eq₃, value₃⟩ :=
    Trimmed.drop (n := q₂) (s := t₂) ⟨q₂, t₂, le₂, rfl, value₂⟩ 100 2 (by norm_num) rfl
  rw [eq₃]
  dsimp only
  exact Trimmed.drop (n := q₃) (s := t₃) ⟨q₃, t₃, le₃, rfl, value₃⟩ 10 1 (by norm_num) rfl

/-! ## The quotient -/

theorem value_of_not_negative {d : Decimal} (sign : d.negative = false) :
    d.value = d.mantissa / 10 ^ d.scale := by
  simp [value, signed, sign]

theorem negative_eq_false_of_nonneg {d : Decimal} (nonneg : 0 ≤ d.value)
    (nonzero : d.mantissa ≠ 0) : d.negative = false := by
  cases sign : d.negative
  · rfl
  · have positive : (0 : ℚ) < d.mantissa := by exact_mod_cast Nat.pos_of_ne_zero nonzero
    have : d.value < 0 := by
      simp only [value, signed, sign, if_true, Int.cast_neg, Int.cast_natCast]
      exact div_neg_of_neg_of_pos (by linarith) (by positivity)
    linarith

theorem mantissa_cast {d : Decimal} (nonneg : 0 ≤ d.value) :
    (d.mantissa : ℚ) = d.value * 10 ^ d.scale := by
  by_cases vanishes : d.mantissa = 0
  · simp [vanishes, value_eq_zero_iff.mpr vanishes]
  · rw [value_of_not_negative (negative_eq_false_of_nonneg nonneg vanishes)]
    field_simp

/-- The dividend of `a / b`, counted in units of `10 ^ -28` of the quotient. -/
theorem numerator_cast {a : Decimal} (b : Decimal) (nonneg : 0 ≤ a.value) :
    ((a.mantissa * 10 ^ (28 + b.scale - a.scale) : ℕ) : ℚ) = a.value * 10 ^ 28 * 10 ^ b.scale := by
  have places := a.scale_le
  unfold maxScale at places
  have split : (10 : ℚ) ^ a.scale * 10 ^ (28 + b.scale - a.scale) = 10 ^ 28 * 10 ^ b.scale := by
    rw [← pow_add, ← pow_add, Nat.add_sub_cancel' (by omega)]
  push_cast
  rw [mantissa_cast nonneg, mul_assoc, split, mul_assoc]

/-- The quotient `a / b` rounded half to even at 28 places, counted in units of `10 ^ -28`. -/
def quotientDigits (a b : Decimal) : Nat :=
  roundDivHalfEven (a.mantissa * 10 ^ (28 + b.scale - a.scale)) b.mantissa

/-- Dividing a decimal of value zero or more by a positive one, when the quotient is below the
limit less one, gives the quotient rounded half to even at 28 places. -/
theorem div?_spec {a b : Decimal} (aSign : a.mantissa ≠ 0 → a.negative = false)
    (bPos : b.mantissa ≠ 0) (bSign : b.negative = false)
    (small : a.mantissa * 10 ^ (28 + b.scale - a.scale) < b.mantissa * (mantissaLimit - 1)) :
    ∃ q, div? a b = some q ∧ q.negative = false ∧
      q.mantissa * 10 ^ (28 - q.scale) = quotientDigits a b := by
  unfold div?
  rw [if_neg bPos]
  by_cases vanishes : a.mantissa = 0
  · refine ⟨zero, by simp [vanishes], rfl, ?_⟩
    simp [quotientDigits, vanishes, Decimal.zero, roundDivHalfEven]
  rw [if_neg vanishes]
  have hD : 0 < b.mantissa := Nat.pos_of_ne_zero bPos
  have aScale := a.scale_le
  have bScale := b.scale_le
  unfold maxScale at aScale bScale
  have scale : (a.scale : Int) - b.scale = 28 - ((28 + b.scale - a.scale : Nat) : Int) := by omega
  have parts := Nat.div_add_mod' a.mantissa b.mantissa
  obtain ⟨q', j, u, hj, run, value⟩ := divideLoop_spec hD 64 (a.mantissa / b.mantissa)
    (a.mantissa % b.mantissa) (28 + b.scale - a.scale) false (Nat.mod_lt _ hD)
    (by rw [parts]; exact Nat.pos_of_ne_zero vanishes) (by rw [parts]; exact small) (by omega)
  rw [scale, run]
  rw [parts] at value
  have places : (28 : Int) - j = ((28 - j : Nat) : Int) := by omega
  have trimmed : Trimmed q' (28 - j)
      (if u then trimQuotient q' ((28 - j : Nat) : Int) else (q', ((28 - j : Nat) : Int))) := by
    cases u
    · exact trimmed_self q' (28 - j)
    · exact trimmed_trimQuotient q' (28 - j)
  obtain ⟨q₂, t₂, le₂, pair, written⟩ := trimmed
  simp only [places, pair, Int.toNat_natCast]
  have sign : (a.negative != b.negative) = false := by simp [aSign vanishes, bSign]
  have digits : q' * 10 ^ j < mantissaLimit := by
    rw [value]
    exact roundDivHalfEven_lt hD small
  have below : q₂ < mantissaLimit := by
    have : q₂ ≤ q' * 10 ^ j := by
      rw [← written, Nat.mul_assoc]
      exact Nat.le_mul_of_pos_right _ (Nat.mul_pos (Nat.pow_pos (by norm_num))
        (Nat.pow_pos (by norm_num)))
    omega
  refine ⟨⟨q₂, t₂, false, below, by unfold maxScale; omega⟩, ?_, rfl, ?_⟩
  · simp [ofParts?, make?, sign, below, maxScale]
    omega
  · show q₂ * 10 ^ (28 - t₂) = quotientDigits a b
    have exponent : 28 - t₂ = (28 - j - t₂) + j := by omega
    rw [quotientDigits, ← value, ← written, exponent, Nat.pow_add, Nat.mul_assoc]

theorem quotientDigits_mono {a₁ a₂ : Decimal} (b : Decimal) (nonneg : 0 ≤ a₁.value)
    (le : a₁.value ≤ a₂.value) : quotientDigits a₁ b ≤ quotientDigits a₂ b := by
  apply roundDivHalfEven_mono
  have cast : ((a₁.mantissa * 10 ^ (28 + b.scale - a₁.scale) : ℕ) : ℚ) ≤
      ((a₂.mantissa * 10 ^ (28 + b.scale - a₂.scale) : ℕ) : ℚ) := by
    rw [numerator_cast b nonneg, numerator_cast b (nonneg.trans le)]
    gcongr
  exact_mod_cast cast

/-- A quotient at most `M / 10 ^ 28` has at most `M` digits' worth of units. -/
theorem quotientDigits_le {a b : Decimal} (M : Nat) (nonneg : 0 ≤ a.value) (bPos : 0 < b.value)
    (bound : a.value * 10 ^ 28 ≤ b.value * M) : quotientDigits a b ≤ M := by
  apply roundDivHalfEven_le_of_le
  have cast : ((a.mantissa * 10 ^ (28 + b.scale - a.scale) : ℕ) : ℚ) ≤ ((b.mantissa * M : ℕ) : ℚ) := by
    rw [numerator_cast b nonneg]
    push_cast
    rw [mantissa_cast bPos.le]
    calc a.value * 10 ^ 28 * 10 ^ b.scale ≤ b.value * M * 10 ^ b.scale := by gcongr
      _ = b.value * 10 ^ b.scale * M := by ring
  exact_mod_cast cast

theorem value_of_units {q : Decimal} {units : Nat} (sign : q.negative = false)
    (written : q.mantissa * 10 ^ (28 - q.scale) = units) : q.value = units / 10 ^ 28 := by
  have places := q.scale_le
  unfold maxScale at places
  have split : (10 : ℚ) ^ 28 = 10 ^ q.scale * 10 ^ (28 - q.scale) := by
    rw [← pow_add, Nat.add_sub_cancel' places]
  rw [value_of_not_negative sign, ← written, split]
  push_cast
  field_simp

/-- A dividend of value zero or more over a positive divisor, with a quotient below the limit
less one: the quotient is rounded half to even at 28 places. -/
theorem div?_value {a b : Decimal} (nonneg : 0 ≤ a.value) (bPos : 0 < b.value)
    (small : a.value * 10 ^ 28 < b.value * (mantissaLimit - 1)) :
    ∃ q, div? a b = some q ∧ q.negative = false ∧
      q.mantissa * 10 ^ (28 - q.scale) = quotientDigits a b ∧
      q.value = quotientDigits a b / 10 ^ 28 := by
  have bNonzero : b.mantissa ≠ 0 := fun zero => bPos.ne' (value_eq_zero_iff.mpr zero)
  have digits : a.mantissa * 10 ^ (28 + b.scale - a.scale) < b.mantissa * (mantissaLimit - 1) := by
    have cast : ((a.mantissa * 10 ^ (28 + b.scale - a.scale) : ℕ) : ℚ) <
        ((b.mantissa * (mantissaLimit - 1) : ℕ) : ℚ) := by
      rw [numerator_cast b nonneg, Nat.cast_mul, mantissa_cast bPos.le,
        Nat.cast_sub (Nat.one_le_iff_ne_zero.mpr zero_lt_mantissaLimit.ne')]
      push_cast
      calc a.value * 10 ^ 28 * 10 ^ b.scale < b.value * (mantissaLimit - 1) * 10 ^ b.scale := by
            gcongr
        _ = b.value * 10 ^ b.scale * (mantissaLimit - 1) := by ring
    exact_mod_cast cast
  obtain ⟨q, divided, sign, written⟩ := div?_spec (negative_eq_false_of_nonneg nonneg) bNonzero
    (negative_eq_false_of_nonneg bPos.le bNonzero) digits
  exact ⟨q, divided, sign, written, value_of_units sign written⟩

/-! ## A hundred times the quotient, rounded to places -/

theorem roundHalfEven_of_dvd {n k : Nat} (divisible : 10 ^ k ∣ n) :
    roundHalfEven n k = n / 10 ^ k := by
  have positive : 0 < 10 ^ k := Nat.pow_pos (by norm_num)
  simp [roundHalfEven, Nat.pow_eq, Nat.mod_eq_zero_of_dvd divisible]
  omega

/-- A hundred times a mantissa `m` at `s` places, with `m` below the limit at 28 places: at most
its two trailing zeros are dropped, so the product is exact. -/
theorem fit_hundred {m s : Nat} (places : s ≤ 28) (small : m * 10 ^ (28 - s) < mantissaLimit) :
    ∃ c, fit (m * 100) s false = some c ∧ c.negative = false ∧
      c.value = 100 * ((m : ℚ) / 10 ^ s) := by
  have below : m < mantissaLimit :=
    lt_of_le_of_lt (Nat.le_mul_of_pos_right _ (Nat.pow_pos (by norm_num))) small
  have room : m * 100 ≤ (mantissaLimit - 1) * 10 ^ s := by
    have total : m * 100 * 10 ^ (28 - s) ≤ (mantissaLimit - 1) * 10 ^ s * 10 ^ (28 - s) := by
      rw [Nat.mul_assoc (mantissaLimit - 1), ← Nat.pow_add, Nat.add_sub_cancel' places]
      calc m * 100 * 10 ^ (28 - s) = m * 10 ^ (28 - s) * 100 := by ring
        _ ≤ (mantissaLimit - 1) * 100 := Nat.mul_le_mul_right _ (by omega)
        _ ≤ (mantissaLimit - 1) * 10 ^ 28 := Nat.mul_le_mul_left _ (by norm_num)
    exact Nat.le_of_mul_le_mul_right total (Nat.pow_pos (by norm_num))
  obtain ⟨c, fitted⟩ := fit_isSome false room
  obtain ⟨sign, k, le, mantissa, scale, first⟩ := fit_eq_some fitted
  -- two digits always fit, so no more than two are dropped, and those are zeros
  have few : k ≤ 2 := by
    by_contra many
    apply first 2 (by omega)
    refine ⟨by unfold maxScale; omega, ?_⟩
    have exact : m * 100 / 10 ^ 2 = m := by norm_num
    rwa [roundHalfEven_of_dvd (Dvd.intro_left m (by norm_num)), exact]
  have divisible : 10 ^ k ∣ m * 100 :=
    Dvd.dvd.mul_left (Nat.pow_dvd_pow_iff_le_right'.mpr few |>.trans (by norm_num)) _
  refine ⟨c, fitted, sign, ?_⟩
  rw [value_of_not_negative sign, mantissa, scale, roundHalfEven_of_dvd divisible,
    Nat.cast_div divisible (by positivity)]
  have split : (10 : ℚ) ^ s = 10 ^ k * 10 ^ (s - k) := by rw [← pow_add, Nat.add_sub_cancel' le]
  rw [split]
  push_cast
  field_simp

theorem dropZeroSign_of_not_negative {c : Decimal} (sign : c.negative = false) :
    c.dropZeroSign = c := by
  unfold dropZeroSign
  split_ifs
  · cases c
    simp_all
  · rfl

/-- A decimal of value zero or more, below the limit at 28 places, times a hundred: exact. -/
theorem mul?_hundred {q : Decimal} (sign : q.negative = false)
    (small : q.mantissa * 10 ^ (28 - q.scale) < mantissaLimit) :
    ∃ p, mul? q hundred = some p ∧ p.negative = false ∧ p.value = 100 * q.value := by
  have places := q.scale_le
  unfold maxScale at places
  by_cases vanishes : q.mantissa = 0
  · refine ⟨zero, by simp [mul?, vanishes], rfl, ?_⟩
    simp [value_of_not_negative sign, vanishes]
  obtain ⟨c, fitted, cSign, cValue⟩ := fit_hundred places small
  have product : fit (q.mantissa * hundred.mantissa) (q.scale + hundred.scale)
      (q.negative != hundred.negative) = some c := by
    simpa [hundred, sign] using fitted
  refine ⟨c, ?_, cSign, by rw [cValue, value_of_not_negative sign]⟩
  unfold mul?
  rw [if_neg (by simp [vanishes, hundred])]
  split_ifs with narrow many
  · simp [hundred] at many
    omega
  · rw [product, Option.map_some, dropZeroSign_of_not_negative cSign]
  · exact product

theorem floor_natCast_add_half (n : Nat) : ⌊(n : ℚ) + 1 / 2⌋₊ = n := by
  rw [add_comm, Nat.floor_add_natCast (by norm_num), Nat.floor_eq_zero.mpr (by norm_num),
    Nat.zero_add]

/-- Rounding half away from zero, for a count of units of `10 ^ -k`, is the floor of the count
plus one half. -/
theorem roundHalfAway_eq_floor (n k : Nat) :
    roundHalfAway n k = ⌊(n : ℚ) / 10 ^ k + 1 / 2⌋₊ := by
  have hd : (0 : ℚ) < 10 ^ k := by positivity
  have parts : (n : ℚ) = (n / 10 ^ k : ℕ) * 10 ^ k + (n % 10 ^ k : ℕ) := by
    exact_mod_cast (Nat.div_add_mod' n (10 ^ k)).symm
  have remainder : ((n % 10 ^ k : ℕ) : ℚ) < 10 ^ k := by
    exact_mod_cast Nat.mod_lt n (Nat.pow_pos (by norm_num))
  have scaled : (n : ℚ) / 10 ^ k = (n / 10 ^ k : ℕ) + ((n % 10 ^ k : ℕ) : ℚ) / 10 ^ k := by
    rw [parts]
    field_simp
  unfold roundHalfAway
  simp only [Nat.pow_eq]
  symm
  rw [Nat.floor_eq_iff (by positivity), scaled]
  split_ifs with up
  · have up' : (10 : ℚ) ^ k ≤ 2 * ((n % 10 ^ k : ℕ) : ℚ) := by exact_mod_cast up
    push_cast
    constructor
    · have : (1 / 2 : ℚ) ≤ ((n % 10 ^ k : ℕ) : ℚ) / 10 ^ k := by
        rw [le_div_iff₀ hd]
        linarith
      linarith
    · have : ((n % 10 ^ k : ℕ) : ℚ) / 10 ^ k < 1 := by
        rw [div_lt_one hd]
        exact remainder
      linarith
  · have down : 2 * ((n % 10 ^ k : ℕ) : ℚ) < 10 ^ k := by exact_mod_cast Nat.lt_of_not_le up
    constructor
    · have : (0 : ℚ) ≤ ((n % 10 ^ k : ℕ) : ℚ) / 10 ^ k := by positivity
      linarith
    · have : ((n % 10 ^ k : ℕ) : ℚ) / 10 ^ k < 1 / 2 := by
        rw [div_lt_iff₀ hd]
        linarith
      linarith

/-- Rounding a decimal of value zero or more to `places` digits, ties away from zero, takes
the floor of its value in units of `10 ^ -places` plus one half. -/
theorem roundPlaces_value {d : Decimal} {places : Nat} (sign : d.negative = false) :
    (d.roundPlaces places).value = ⌊d.value * 10 ^ places + 1 / 2⌋₊ / 10 ^ places := by
  have units : d.value * 10 ^ places = d.mantissa / 10 ^ d.scale * 10 ^ places := by
    rw [value_of_not_negative sign]
  unfold roundPlaces
  split_ifs with within vanishes
  · -- few enough places: the value is a whole count of units already
    have whole : d.value * 10 ^ places = (d.mantissa * 10 ^ (places - d.scale) : ℕ) := by
      rw [units]
      push_cast
      rw [← Nat.add_sub_cancel' within, pow_add]
      field_simp
      simp
    rw [whole, floor_natCast_add_half, value_of_not_negative sign]
    push_cast
    rw [← Nat.add_sub_cancel' within, pow_add]
    field_simp
    simp
  · simp [value, signed, vanishes, Nat.floor_eq_zero.mpr (show (2 : ℚ)⁻¹ < 1 by norm_num)]
  · -- more places: the mantissa is rounded at the `scale - places` digits it loses
    have split : (10 : ℚ) ^ d.scale = 10 ^ (d.scale - places) * 10 ^ places := by
      rw [← pow_add, Nat.sub_add_cancel (le_of_not_ge within)]
    have lost : d.value * 10 ^ places = d.mantissa / 10 ^ (d.scale - places) := by
      rw [units, split]
      field_simp
    rw [lost, ← roundHalfAway_eq_floor]
    simp [value, signed, sign]

theorem value_roundPlaces_neg (d : Decimal) (places : Nat) :
    (d.neg.roundPlaces places).value = -(d.roundPlaces places).value := by
  unfold roundPlaces
  by_cases within : d.scale ≤ places
  · rw [dif_pos within, dif_pos (show d.neg.scale ≤ places from within)]
    exact value_neg d
  rw [dif_neg within, dif_neg (show ¬d.neg.scale ≤ places from within)]
  by_cases vanishes : d.mantissa = 0
  · rw [if_pos vanishes, if_pos (show d.neg.mantissa = 0 from vanishes)]
    simp [value, signed]
  rw [if_neg vanishes, if_neg (show ¬d.neg.mantissa = 0 from vanishes)]
  by_cases zero : roundHalfAway d.mantissa (d.scale - places) = 0
  · simp [value, signed, zero]
  · cases sign : d.negative <;> simp [value, signed, neg, sign, zero, neg_div]

/-- Rounding to places is half away from zero: a negative value rounds as its opposite does,
with the sign put back. -/
theorem value_roundPlaces (d : Decimal) (places : Nat) :
    (d.roundPlaces places).value =
      if d.value < 0 then -((⌊-d.value * 10 ^ places + 1 / 2⌋₊ : ℚ) / 10 ^ places)
      else (⌊d.value * 10 ^ places + 1 / 2⌋₊ : ℚ) / 10 ^ places := by
  cases sign : d.negative
  · rw [if_neg (not_lt.mpr (value_nonneg_of_not_negative sign)), roundPlaces_value sign]
  · have flipped : d.neg.negative = false := by simp [neg, sign]
    have mirrored : (d.roundPlaces places).value =
        -((⌊-d.value * 10 ^ places + 1 / 2⌋₊ : ℚ) / 10 ^ places) := by
      rw [← neg_neg (d.roundPlaces places).value, ← value_roundPlaces_neg,
        roundPlaces_value flipped, value_neg]
    split_ifs with below
    · exact mirrored
    · -- a negative zero
      have nonpos : d.value ≤ 0 := by
        simp only [value, signed, sign, if_true, Int.cast_neg, Int.cast_natCast, neg_div]
        exact neg_nonpos.mpr (by positivity)
      have zero : d.value = 0 := le_antisymm nonpos (not_lt.mp below)
      rw [mirrored, zero]
      simp [Nat.floor_eq_zero.mpr (show (2 : ℚ)⁻¹ < 1 by norm_num)]

end Decimal

end Subledger
