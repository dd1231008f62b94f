import Subledger.Proofs.Decimal.Value
import Subledger.Proofs.Voucher.Step

/-! # The allocation tally of a voucher

A voucher keeps a tally of its allocations: the allocated amount is the checked running sum of
the allocations, each of them positive, and what is left to allocate is the amount less the
allocated amount, as a decimal difference. Both are recomputed by unchecked arithmetic, which
rounds once a result has more digits than fit. When the amount fits at the scale of every
allocation nothing is rounded: the allocated and unallocated amounts add up to the amount, an
allocation within what is left sums to at most the amount, and so it never aborts. A fractional
allocation from an amount with too many digits is where this fails (`Safety`).
-/

namespace Subledger

namespace Voucher

/-- Whether the amount of `v` fits at the scale of each of its allocations. -/
def FitsAllocations (v : Voucher) : Prop := ∀ a ∈ v.allocations, v.amount.FitsAt a.amount.scale

/-- The tally of a voucher's allocations. -/
structure Tally (v : Voucher) : Prop where
  amount_pos : 0 < v.amount.value
  /-- The allocated amount is the checked running sum of the allocations. -/
  allocated_sum : Decimal.sum? (v.allocations.map (·.amount)) = some v.allocated
  allocated_nonneg : 0 ≤ v.allocated.value
  allocation_pos : ∀ a ∈ v.allocations, 0 < a.amount.value
  /-- What is left is the amount less the allocated amount, as a decimal difference. -/
  unallocated_eq : Decimal.sub? v.amount v.allocated = some v.unallocated
  /-- When the amount fits at the scale of every allocation, the tally is exact. -/
  exact : v.FitsAllocations → v.amount.FitsAt v.allocated.scale ∧
    v.allocated.value + v.unallocated.value = v.amount.value ∧ v.allocated.value ≤ v.amount.value

variable {v v' : Voucher} {f f' : Fresh}

theorem tally_opened {side : Side} {d : VoucherDraft} {env : Envelope VoucherEvent}
    (success : (create side d).run f = .ok ((v, env), f')) : v.Tally := by
  obtain ⟨positive, -, -, amount, allocated, unallocated, allocations, -⟩ := create_eq_ok success
  have amountPos : 0 < v.amount.value := amount ▸ Decimal.isPositive_iff.mp positive
  have nonzero : v.amount.mantissa ≠ 0 := fun zero =>
    amountPos.ne' (Decimal.value_eq_zero_iff.mpr zero)
  refine
    { amount_pos := amountPos
      allocated_sum := by simp [allocations, allocated]
      allocated_nonneg := by simp [allocated]
      allocation_pos := by simp [allocations]
      unallocated_eq := by rw [allocated, unallocated, ← amount, Decimal.sub?_zero nonzero]
      exact := fun _ => ⟨?_, by simp [allocated, unallocated, amount], by simp [allocated, amountPos.le]⟩ }
  rw [allocated]
  exact (Decimal.fitsAt_scale v.amount).mono (Nat.zero_le _)

namespace Tally

variable (tally : v.Tally)
include tally

theorem keep (amount : v'.amount = v.amount) (allocated : v'.allocated = v.allocated)
    (unallocated : v'.unallocated = v.unallocated) (allocations : v'.allocations = v.allocations) :
    v'.Tally where
  amount_pos := amount ▸ tally.amount_pos
  allocated_sum := by rw [allocations, allocated]; exact tally.allocated_sum
  allocated_nonneg := allocated ▸ tally.allocated_nonneg
  allocation_pos := allocations ▸ tally.allocation_pos
  unallocated_eq := by rw [amount, allocated, unallocated]; exact tally.unallocated_eq
  exact := by
    unfold FitsAllocations
    rw [amount, allocated, unallocated, allocations]
    exact tally.exact

/-- An allocation keeps the tally: it adds an allocation and its amount to the allocated
amount, and takes the new allocated amount from the amount. -/
theorem allocate {target : Uuid} {targetNumber : String} {amount : Money} {remark : String}
    {at_ : Instant} {allocation : Allocation} {env : Envelope VoucherEvent}
    (success : (v.allocate target targetNumber amount remark at_).run f =
      .ok ((v', allocation, env), f')) : v'.Tally := by
  obtain ⟨-, -, -, -, positive, within, -, allocated, unallocated, sum, difference, rfl, rfl⟩ :=
    allocate_eq_ok success
  have valuePos : 0 < amount.amount.value := Decimal.isPositive_iff.mp positive
  have within : amount.amount.value ≤ v.unallocated.value :=
    not_lt.mp fun above => by simp [Decimal.lt_iff.mpr above] at within
  have allocatedSum : Decimal.sum? ((v.allocations ++ [(⟨f.peek, v.id, target, targetNumber,
      amount.amount, at_, remark⟩ : Allocation)]).map (·.amount)) = some allocated := by
    simp [Decimal.sum?_append_singleton, tally.allocated_sum, sum]
  refine
    { amount_pos := tally.amount_pos
      allocated_sum := allocatedSum
      allocated_nonneg := Decimal.add?_nonneg tally.allocated_nonneg valuePos.le sum
      allocation_pos := ?_
      unallocated_eq := difference
      exact := ?_ }
  · intro a member
    simp only [touch_allocations, List.mem_append, List.mem_singleton] at member
    rcases member with old | rfl
    · exact tally.allocation_pos a old
    · exact valuePos
  · intro fits
    obtain ⟨fitsAllocated, conserved, -⟩ :=
      tally.exact fun a member => fits a (List.mem_append_left _ member)
    obtain ⟨fitsNew, -, newConserved, newBelow⟩ := Decimal.add_sub_exact fitsAllocated
      (fits _ (List.mem_append_right _ (List.mem_singleton_self _)))
      tally.allocated_nonneg valuePos.le conserved within sum difference
    exact ⟨fitsNew, newConserved, newBelow⟩

theorem step (step : v.Step v') : v'.Tally := by
  obtain ⟨op, f, f', success⟩ := step
  cases op with
  | allocate target targetNumber amount remark at_ =>
    obtain ⟨⟨v'', allocation, env⟩, run, rfl⟩ := Cmd.run_map_eq_ok.mp success
    exact tally.allocate run
  | _ =>
    obtain ⟨amount, allocated, unallocated, allocations⟩ :=
      exec_keeps_tally success (by simp)
    exact tally.keep amount allocated unallocated allocations

/-- An allocation does not abort while the amount fits at the scale of every allocation and of
the new one: the new allocated amount is then an exact sum within the amount. -/
theorem noAbortFrom_allocate {target : Uuid} {targetNumber : String} {amount : Money}
    {remark : String} {at_ : Instant} (fits : v.FitsAllocations)
    (fitsNew : v.amount.FitsAt amount.amount.scale) :
    (v.allocate target targetNumber amount remark at_).NoAbortFrom f := by
  obtain ⟨fitsAllocated, conserved, -⟩ := tally.exact fits
  simp only [Voucher.allocate]
  simp
  intro _ _ _ _ _ value valid above _
  obtain ⟨-, positive, rfl⟩ := Validate.positiveAmount_eq_ok.mp valid
  have valuePos : 0 < amount.amount.value := Decimal.isPositive_iff.mp positive
  have within : amount.amount.value ≤ v.unallocated.value :=
    not_lt.mp fun exceeds => by simp [Decimal.lt_iff.mpr exceeds] at above
  obtain ⟨sum, added, sumValue, -⟩ := Decimal.add?_within fitsAllocated fitsNew
    tally.allocated_nonneg valuePos.le (by linarith)
  obtain ⟨rest, difference⟩ := Decimal.sub?_isSome_of_nonneg tally.amount_pos.le
    (by rw [sumValue]; linarith [tally.allocated_nonneg])
  exact ⟨sum, added, rest, difference, by simp [announce]⟩

end Tally

theorem tally_of_reachable (reach : v.Reachable) : v.Tally := by
  obtain ⟨d, v₀, ⟨side, f, env, f', opened⟩, run⟩ := reach
  induction run with
  | refl => exact tally_opened opened
  | tail _ step ih => exact ih.step step

end Voucher

/-- Whether the amount of a command fits at the scale of the voucher's amount; only an
allocation carries one. -/
def VoucherOp.Fits (v : Voucher) : VoucherOp → Prop
  | .allocate _ _ amount _ _ => v.amount.FitsAt amount.amount.scale
  | _ => True

theorem Voucher.noAbort_exec {v : Voucher} (reach : v.Reachable) (fits : v.FitsAllocations)
    (op : VoucherOp) (fitsOp : op.Fits v) : (v.exec op).NoAbort := by
  intro f
  cases op with
  | allocate target targetNumber amount remark at_ =>
    simpa [exec] using (tally_of_reachable reach).noAbortFrom_allocate fits fitsOp
  | confirm user at_ => simp [exec, confirm, announce]
  | cancel user reason at_ => simp [exec, cancel, announce]
  | setReference reference at_ => simp [exec]
  | setRemark remark at_ => simp [exec]

end Subledger
