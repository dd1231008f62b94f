import Subledger.Proofs.Decimal.Drift
import Subledger.Proofs.Ledger.Conservation
import Subledger.Proofs.Voucher.Allocation
import Subledger.Proofs.Memo.Application
import Subledger.Proofs.Voucher.Lifecycle

/-! # Percentages

`percentage part whole` is a hundred for a zero whole; otherwise it divides, multiplies by a
hundred and rounds half away from zero to two places, and refuses an invalid amount when the
quotient or the product leaves the decimal range. For a part of value zero or more that is at
most a positive whole but for rounding, neither can: the quotient is at most a little over one,
so the percentage is there, lies between nothing and a hundred, and follows the part.

The amounts that receivables, vouchers and memos have drawn from their totals are such parts on
every run from the factory, since each draw checks the amount against the rounded rest
(`Decimal.atMost_of_draw`). Their paid, allocated and applied percentages are therefore always
there and between nothing and a hundred, even where rounding has drawn a little past the total.
-/

namespace Subledger

open Decimal

variable {part whole : Decimal}

/-- The percentage of anything in a zero whole, of any scale or sign, is a hundred. -/
theorem percentage_of_value_eq_zero (zero : whole.value = 0) :
    percentage part whole = .ok hundred := by
  have vanishes : whole.isZero = true := isZero_iff.mpr zero
  simp [percentage, vanishes]

/-- Otherwise the percentage is the quotient times a hundred, rounded to two places, whenever
both are in range. -/
theorem percentage_eq_ok_iff (nonzero : whole.value ≠ 0) {r : Decimal} :
    percentage part whole = .ok r ↔
      ∃ q p, div? part whole = some q ∧ mul? q hundred = some p ∧ r = p.roundPlaces 2 := by
  have present : whole.isZero = false := by
    cases zero : whole.isZero
    · rfl
    · exact absurd (isZero_iff.mp zero) nonzero
  unfold percentage
  rw [if_neg (by simp [present])]
  cases divided : div? part whole with
  | none => simp
  | some q =>
    cases multiplied : mul? q hundred with
    | none => simp [multiplied]
    | some p => simp [multiplied, eq_comm]

theorem percentage_eq_error {e : DomainError} (refused : percentage part whole = .error e) :
    e.code = .invalidAmount := by
  unfold percentage at refused
  split at refused
  · cases refused
  · split at refused
    · cases refused
    · cases refused
      rfl

/-- A part at most the whole but for rounding, in units of `10 ^ -28` of the whole. -/
theorem Decimal.AtMost.units_le (atMost : part.AtMost whole) :
    part.value * 10 ^ 28 ≤ whole.value * (10 ^ 28 + 100) := by
  unfold AtMost at atMost
  linarith

theorem quotientDigits_le_of_atMost (nonneg : 0 ≤ part.value) (positive : 0 < whole.value)
    (atMost : part.AtMost whole) : quotientDigits part whole ≤ 10 ^ 28 + 100 :=
  quotientDigits_le _ nonneg positive (by exact_mod_cast atMost.units_le)

/-- A part of value zero or more, at most a positive whole but for rounding: the percentage is
the quotient, rounded half to even at 28 places and counted in units of `10 ^ -28`, taken in
units of `10 ^ -4` and rounded half away from zero. -/
theorem percentage_of_atMost (nonneg : 0 ≤ part.value) (positive : 0 < whole.value)
    (atMost : part.AtMost whole) :
    ∃ r, percentage part whole = .ok r ∧
      r.value = ⌊(quotientDigits part whole : ℚ) / 10 ^ 24 + 1 / 2⌋₊ / 100 := by
  have limit : (10 ^ 28 + 100 : ℚ) < mantissaLimit - 1 := by
    unfold mantissaLimit
    norm_num
  have small : part.value * 10 ^ 28 < whole.value * (mantissaLimit - 1) :=
    atMost.units_le.trans_lt (mul_lt_mul_of_pos_left limit positive)
  have digits := quotientDigits_le_of_atMost nonneg positive atMost
  obtain ⟨q, divided, sign, written, quotient⟩ := div?_value nonneg positive small
  obtain ⟨p, multiplied, pSign, product⟩ := mul?_hundred sign (by
    rw [written]
    exact digits.trans_lt (by unfold mantissaLimit; norm_num))
  refine ⟨p.roundPlaces 2, (percentage_eq_ok_iff positive.ne').mpr ⟨q, p, divided, multiplied, rfl⟩, ?_⟩
  have units : 100 * ((quotientDigits part whole : ℚ) / 10 ^ 28) * 10 ^ 2 =
      (quotientDigits part whole : ℚ) / 10 ^ 24 := by ring
  rw [roundPlaces_value pSign, product, quotient, units]
  norm_num

theorem percentage_mem_range (nonneg : 0 ≤ part.value) (positive : 0 < whole.value)
    (atMost : part.AtMost whole) :
    ∃ r, percentage part whole = .ok r ∧ 0 ≤ r.value ∧ r.value ≤ 100 := by
  obtain ⟨r, ok, value⟩ := percentage_of_atMost nonneg positive atMost
  refine ⟨r, ok, by rw [value]; positivity, ?_⟩
  have digits : (quotientDigits part whole : ℚ) ≤ 10 ^ 28 + 100 := by
    exact_mod_cast quotientDigits_le_of_atMost nonneg positive atMost
  have below : (quotientDigits part whole : ℚ) / 10 ^ 24 + 1 / 2 < 10 ^ 4 + 1 := by
    have : (quotientDigits part whole : ℚ) / 10 ^ 24 ≤ (10 ^ 28 + 100) / 10 ^ 24 := by gcongr
    linarith
  have floor : ⌊(quotientDigits part whole : ℚ) / 10 ^ 24 + 1 / 2⌋₊ ≤ 10 ^ 4 :=
    Nat.le_of_lt_succ ((Nat.floor_lt (by positivity)).mpr (by exact_mod_cast below))
  rw [value, div_le_iff₀ (by norm_num)]
  have : (⌊(quotientDigits part whole : ℚ) / 10 ^ 24 + 1 / 2⌋₊ : ℚ) ≤ 10 ^ 4 := by
    exact_mod_cast floor
  linarith

theorem percentage_mono {part₁ part₂ r₁ r₂ : Decimal} (nonneg : 0 ≤ part₁.value)
    (le : part₁.value ≤ part₂.value) (positive : 0 < whole.value) (atMost : part₂.AtMost whole)
    (ok₁ : percentage part₁ whole = .ok r₁) (ok₂ : percentage part₂ whole = .ok r₂) :
    r₁.value ≤ r₂.value := by
  obtain ⟨s₁, ok₁', value₁⟩ := percentage_of_atMost nonneg positive (atMost.mono le)
  obtain ⟨s₂, ok₂', value₂⟩ := percentage_of_atMost (nonneg.trans le) positive atMost
  obtain rfl : r₁ = s₁ := Except.ok.inj (ok₁.symm.trans ok₁')
  obtain rfl : r₂ = s₂ := Except.ok.inj (ok₂.symm.trans ok₂')
  rw [value₁, value₂]
  gcongr
  exact_mod_cast quotientDigits_mono whole nonneg le

/-! ## Along every run -/

namespace Balance

variable {total : Money} {side : Side} {b b' : Balance}

/-- Every command keeps what a balance has paid at most its total but for rounding: a payment
draws no more than the outstanding amount, and no other command changes either amount. -/
theorem Step.paid_atMost (books : b.Books total) (atMost : b.paid.AtMost b.total)
    (step : Step side b b') : b'.paid.AtMost b'.total := by
  cases step with
  | applyPayment success =>
    obtain ⟨open_, -, positive, within, -, paid, outstanding, sum, -, -, -, rfl⟩ :=
      applyPayment_eq_ok success
    obtain ⟨-, owed⟩ := books.standing (isStanding_of_open open_)
    exact atMost_of_draw books.paid_nonneg (isPositive_iff.mp positive) owed
      (lt_eq_false_iff.mp within) sum
  | reverse success =>
    obtain ⟨-, -, -, -, rfl, -⟩ := reverse_eq_ok success
    exact atMost
  | cancel success =>
    obtain ⟨-, -, -, -, rfl⟩ := cancel_eq_ok success
    exact atMost
  | setDueDate success =>
    obtain ⟨-, rfl⟩ := setDueDate_eq_ok.mp success
    exact atMost
  | setRemark => exact atMost

end Balance

theorem Entry.paid_atMost_of_reachableFrom {d : EntryDraft} {e : Entry}
    (reach : e.ReachableFrom d) : e.balance.paid.AtMost e.balance.total := by
  obtain ⟨e₀, opened, run⟩ := reach
  induction run with
  | refl =>
    obtain ⟨side, f, env, f', created⟩ := opened
    obtain ⟨positive, -, balance, -⟩ := Entry.create_eq_ok created
    rw [balance]
    exact zero_atMost (isPositive_iff.mp positive).le
  | tail run step ih =>
    obtain ⟨op, f, f', success⟩ := step
    obtain ⟨b', at_, moved, rfl⟩ := Entry.exec_eq_ok success
    exact moved.paid_atMost (Entry.books_of_reachableFrom ⟨e₀, opened, run⟩).1 ih

namespace Voucher

variable {v v' : Voucher}

theorem Tally.allocated_atMost (tally : v.Tally) (atMost : v.allocated.AtMost v.amount)
    (step : v.Step v') : v'.allocated.AtMost v'.amount := by
  obtain ⟨op, f, f', success⟩ := step
  cases op with
  | allocate target targetNumber amount remark at_ =>
    obtain ⟨⟨v'', allocation, env⟩, run, rfl⟩ := Cmd.run_map_eq_ok.mp success
    obtain ⟨-, -, -, -, positive, within, -, allocated, unallocated, sum, -, -, rfl⟩ :=
      allocate_eq_ok run
    exact atMost_of_draw tally.allocated_nonneg (isPositive_iff.mp positive)
      tally.unallocated_eq (lt_eq_false_iff.mp within) sum
  | _ =>
    obtain ⟨amount, allocated, -, -⟩ := exec_keeps_tally success (by simp)
    rw [amount, allocated]
    exact atMost

theorem allocated_atMost_of_reachable (reach : v.Reachable) : v.allocated.AtMost v.amount := by
  obtain ⟨d, v₀, opened, run⟩ := reach
  induction run with
  | refl =>
    obtain ⟨side, f, env, f', created⟩ := opened
    obtain ⟨positive, -, -, amount, allocated, -⟩ := create_eq_ok created
    rw [amount, allocated]
    exact zero_atMost (isPositive_iff.mp positive).le
  | tail run step ih => exact (tally_of_reachable ⟨d, v₀, opened, run⟩).allocated_atMost ih step

end Voucher

namespace Memo

variable {m m' : Memo}

/-- Every command keeps what a memo has applied at most its total but for rounding: an
application draws no more than what remains, and a refund counts the total as applied. -/
theorem Tally.applied_atMost (tally : m.Tally) (atMost : m.applied.AtMost m.total)
    (step : m.Step m') : m'.applied.AtMost m'.total := by
  obtain ⟨op, f, f', success⟩ := step
  cases op with
  | addItem line at_ =>
    obtain ⟨⟨m'', item⟩, run, rfl⟩ := Cmd.run_map_eq_ok.mp success
    obtain ⟨-, -, -, -, -, -, -, -, -, -, rfl⟩ := addItem_eq_ok run
    exact atMost
  | linkEntry target at_ =>
    obtain ⟨changed, -⟩ := Cmd.run_check_eq_ok.mp success
    rw [linkEntry_eq_ok changed]
    exact atMost
  | apply target amount remark at_ =>
    obtain ⟨⟨m'', env⟩, run, rfl⟩ := Cmd.run_map_eq_ok.mp success
    obtain ⟨open_, -, -, positive, within, applied, remaining, sum, -, result⟩ :=
      apply_eq_ok run
    -- the applied and the partial outcome carry the same amounts
    obtain ⟨appliedEq, total⟩ : m''.applied = applied ∧ m''.total = m.total := by
      rw [result]
      split <;> exact ⟨rfl, rfl⟩
    rw [appliedEq, total]
    exact atMost_of_draw tally.applied_nonneg (isPositive_iff.mp positive)
      (tally.remaining_eq open_) (lt_eq_false_iff.mp within) sum
  | void reason at_ =>
    obtain ⟨⟨m'', env⟩, run, rfl⟩ := Cmd.run_map_eq_ok.mp success
    obtain ⟨-, -, -, rfl⟩ := void_eq_ok run
    exact atMost
  | refund method at_ =>
    obtain ⟨⟨m'', env⟩, run, rfl⟩ := Cmd.run_map_eq_ok.mp success
    obtain ⟨-, -, -, rfl⟩ := refund_eq_ok run
    exact atMost_of_le tally.total_pos.le le_rfl
  | setRemark remark at_ =>
    simp [exec] at success
    obtain ⟨rfl, -⟩ := success
    exact atMost

theorem applied_atMost_of_reachable (reach : m.Reachable) : m.applied.AtMost m.total := by
  obtain ⟨d, m₀, opened, run⟩ := reach
  induction run with
  | refl =>
    obtain ⟨side, f, env, f', created⟩ := opened
    obtain ⟨positive, -, -, total, applied, -⟩ := create_eq_ok created
    rw [total, applied]
    exact zero_atMost (isPositive_iff.mp positive).le
  | tail run step ih => exact (tally_of_reachable ⟨d, m₀, opened, run⟩).applied_atMost ih step

end Memo

/-! ## Percentages, in full -/

/-- Percentages: a hundred for a zero whole of any scale or sign; otherwise the quotient times a
hundred, rounded half away from zero to two places, exactly when the quotient and the product
are in range, and a refusal for an invalid amount when not. For a part of value zero or more and
at most a positive whole the percentage is there, between nothing and a hundred, and follows the
part. The paid percentage of every receivable or payable, and the allocated and applied
percentages of every voucher and memo, that a run from the factory reaches are there and between
nothing and a hundred. -/
theorem percentage_laws :
    (∀ part whole : Decimal, whole.value = 0 → percentage part whole = .ok hundred) ∧
    (∀ part whole r : Decimal, whole.value ≠ 0 →
      (percentage part whole = .ok r ↔
        ∃ q p, div? part whole = some q ∧ mul? q hundred = some p ∧ r = p.roundPlaces 2)) ∧
    (∀ p : Decimal, (p.roundPlaces 2).value =
      if p.value < 0 then -((⌊-p.value * 10 ^ 2 + 1 / 2⌋₊ : ℚ) / 10 ^ 2)
      else (⌊p.value * 10 ^ 2 + 1 / 2⌋₊ : ℚ) / 10 ^ 2) ∧
    (∀ (part whole : Decimal) (e : DomainError), percentage part whole = .error e →
      e.code = .invalidAmount) ∧
    (∀ part whole : Decimal, 0 ≤ part.value → part.value ≤ whole.value → 0 < whole.value →
      ∃ r, percentage part whole = .ok r ∧ 0 ≤ r.value ∧ r.value ≤ 100) ∧
    (∀ part₁ part₂ whole r₁ r₂ : Decimal, 0 ≤ part₁.value → part₁.value ≤ part₂.value →
      part₂.value ≤ whole.value → 0 < whole.value →
      percentage part₁ whole = .ok r₁ → percentage part₂ whole = .ok r₂ → r₁.value ≤ r₂.value) ∧
    (∀ e : Entry, e.Reachable →
      ∃ r, e.balance.paidPercentage = .ok r ∧ 0 ≤ r.value ∧ r.value ≤ 100) ∧
    (∀ v : Voucher, v.Reachable →
      ∃ r, v.allocatedPercentage = .ok r ∧ 0 ≤ r.value ∧ r.value ≤ 100) ∧
    (∀ m : Memo, m.Reachable →
      ∃ r, m.appliedPercentage = .ok r ∧ 0 ≤ r.value ∧ r.value ≤ 100) := by
  refine ⟨fun _ _ => percentage_of_value_eq_zero, fun _ _ _ nonzero => percentage_eq_ok_iff nonzero,
    fun p => value_roundPlaces p 2, fun _ _ _ => percentage_eq_error, ?_, ?_, ?_, ?_, ?_⟩
  · intro part whole nonneg le positive
    exact percentage_mem_range nonneg positive (atMost_of_le positive.le le)
  · intro part₁ part₂ whole r₁ r₂ nonneg le below positive
    exact percentage_mono nonneg le positive (atMost_of_le positive.le below)
  · rintro e ⟨d, reach⟩
    obtain ⟨books, -⟩ := Entry.books_of_reachableFrom reach
    exact percentage_mem_range books.paid_nonneg books.total_pos
      (Entry.paid_atMost_of_reachableFrom reach)
  · intro v reach
    have tally := Voucher.tally_of_reachable reach
    exact percentage_mem_range tally.allocated_nonneg tally.amount_pos
      (Voucher.allocated_atMost_of_reachable reach)
  · intro m reach
    have tally := Memo.tally_of_reachable reach
    exact percentage_mem_range tally.applied_nonneg tally.total_pos
      (Memo.applied_atMost_of_reachable reach)

/-- One and a half yuan and then `10 ^ 28` allocated from `10 ^ 28 + 1` take a voucher past its
amount; its allocated percentage is still there and at most a hundred. -/
theorem percentage_laws_of_overallocated :
    ∃ v : Voucher, v.Reachable ∧ v.amount.value < v.allocated.value ∧
      ∃ r, v.allocatedPercentage = .ok r ∧ 0 ≤ r.value ∧ r.value ≤ 100 := by
  obtain ⟨d, v₀, opened, run⟩ := Voucher.threeHalvesAllocated_reachable
  have reach : Voucher.Reachable _ := ⟨d, v₀, opened, run.tail
    ⟨.allocate (Uuid.generated 304) "AP-2" ⟨Decimal.octillion, .cny⟩ "" ⟨19726, 0, 0⟩, ⟨3, []⟩,
      _, rfl⟩⟩
  exact ⟨_, reach, by decide +kernel, percentage_laws.2.2.2.2.2.2.2.1 _ reach⟩

end Subledger
