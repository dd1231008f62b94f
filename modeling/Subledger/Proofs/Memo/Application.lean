import Subledger.Proofs.Decimal.Value
import Subledger.Proofs.Memo.Step

/-! # The application tally of a memo

While a memo can still be applied, its applied amount is the checked running sum of its
applications, each of them positive, and what remains is the total less the applied amount, as a
decimal difference. Both are recomputed by unchecked arithmetic. When the total fits at the
scale of every application nothing is rounded: the applied and remaining amounts add up to the
total, an application within what remains sums to at most the total, and so it never aborts. A
void or a refund closes the memo and ends the tally: neither does any arithmetic.
-/

namespace Subledger

namespace Memo

/-- Whether the total of `m` fits at the scale of each of its applications. -/
def FitsApplications (m : Memo) : Prop :=
  ∀ a ∈ m.applications, m.total.FitsAt a.amount.scale

/-- The tally of a memo's applications. -/
structure Tally (m : Memo) : Prop where
  total_pos : 0 < m.total.value
  applied_nonneg : 0 ≤ m.applied.value
  application_pos : ∀ a ∈ m.applications, 0 < a.amount.value
  /-- While the memo can be applied, the applied amount is the checked running sum of the
  applications. -/
  applied_sum : m.status.canApply = true →
    Decimal.sum? (m.applications.map (·.amount)) = some m.applied
  /-- While the memo can be applied, what remains is the total less the applied amount. -/
  remaining_eq : m.status.canApply = true → Decimal.sub? m.total m.applied = some m.remaining
  /-- When the total fits at the scale of every application, the open tally is exact. -/
  exact : m.FitsApplications → m.status.canApply = true →
    m.total.FitsAt m.applied.scale ∧ m.applied.value + m.remaining.value = m.total.value ∧
      m.applied.value ≤ m.total.value

variable {m m' : Memo} {f f' : Fresh}

theorem tally_created {side : Side} {d : MemoDraft} {env : Envelope MemoEvent}
    (success : (create side d).run f = .ok ((m, env), f')) : m.Tally := by
  obtain ⟨positive, -, -, total, applied, remaining, applications, -⟩ := create_eq_ok success
  have totalPos : 0 < m.total.value := total ▸ Decimal.isPositive_iff.mp positive
  have nonzero : m.total.mantissa ≠ 0 := fun zero =>
    totalPos.ne' (Decimal.value_eq_zero_iff.mpr zero)
  refine
    { total_pos := totalPos
      applied_sum := fun _ => by simp [applications, applied]
      applied_nonneg := by simp [applied]
      application_pos := by simp [applications]
      remaining_eq := fun _ => by
        rw [applied, remaining, ← total, Decimal.sub?_zero nonzero]
      exact := fun _ _ =>
        ⟨?_, by simp [applied, remaining, total], by simp [applied, totalPos.le]⟩ }
  rw [applied]
  exact (Decimal.fitsAt_scale m.total).mono (Nat.zero_le _)

namespace Tally

variable (tally : m.Tally)
include tally

theorem keep (total : m'.total = m.total) (applied : m'.applied = m.applied)
    (remaining : m'.remaining = m.remaining) (applications : m'.applications = m.applications)
    (status : m'.status = m.status) : m'.Tally where
  total_pos := total ▸ tally.total_pos
  applied_nonneg := applied ▸ tally.applied_nonneg
  application_pos := applications ▸ tally.application_pos
  applied_sum := by rw [status, applications, applied]; exact tally.applied_sum
  remaining_eq := by rw [status, total, applied, remaining]; exact tally.remaining_eq
  exact := by
    unfold FitsApplications
    rw [status, total, applied, remaining, applications]
    exact tally.exact

/-- A command that closes the memo, keeping its total and applications, leaves only the facts
that do not depend on an open tally. -/
theorem close (total : m'.total = m.total) (applications : m'.applications = m.applications)
    (appliedNonneg : 0 ≤ m'.applied.value) (closed : m'.status.canApply = false) : m'.Tally where
  total_pos := total ▸ tally.total_pos
  applied_nonneg := appliedNonneg
  application_pos := applications ▸ tally.application_pos
  applied_sum := by simp [closed]
  remaining_eq := by simp [closed]
  exact := by simp [closed]

/-- An application keeps the tally: it adds an application and its amount to the applied
amount, and takes the new applied amount from the total. -/
theorem apply {target : Uuid} {amount : Money} {remark : String} {at_ : Instant}
    {env : Envelope MemoEvent}
    (success : (m.apply target amount remark at_).run f = .ok ((m', env), f')) : m'.Tally := by
  obtain ⟨open_, -, -, positive, within, applied, remaining, sum, difference, result⟩ :=
    apply_eq_ok success
  -- both outcomes, applied and partial, carry the same amounts and applications
  obtain ⟨total, appliedEq, remainingEq, applications⟩ :
      m'.total = m.total ∧ m'.applied = applied ∧ m'.remaining = remaining ∧
        m'.applications = m.applications ++
          [(⟨f.peek, m.id, target, amount.amount, at_, remark⟩ : MemoApplication)] := by
    rw [result]
    split <;> exact ⟨rfl, rfl, rfl, rfl⟩
  have valuePos : 0 < amount.amount.value := Decimal.isPositive_iff.mp positive
  have within : amount.amount.value ≤ m.remaining.value :=
    not_lt.mp fun above => by simp [Decimal.lt_iff.mpr above] at within
  refine
    { total_pos := total ▸ tally.total_pos
      applied_nonneg := appliedEq ▸ Decimal.add?_nonneg tally.applied_nonneg valuePos.le sum
      application_pos := ?_
      applied_sum := fun _ => by
        rw [applications, appliedEq]
        simp [Decimal.sum?_append_singleton, tally.applied_sum open_, sum]
      remaining_eq := fun _ => by rw [total, appliedEq, remainingEq]; exact difference
      exact := ?_ }
  · intro a member
    rw [applications, List.mem_append, List.mem_singleton] at member
    rcases member with old | rfl
    · exact tally.application_pos a old
    · exact valuePos
  · intro fits _
    rw [FitsApplications, total, applications] at fits
    obtain ⟨fitsApplied, conserved, -⟩ :=
      tally.exact (fun a member => fits a (List.mem_append_left _ member)) open_
    obtain ⟨fitsNew, -, newConserved, newBelow⟩ := Decimal.add_sub_exact fitsApplied
      (fits _ (List.mem_append_right _ (List.mem_singleton_self _)))
      tally.applied_nonneg valuePos.le conserved within sum difference
    rw [total, appliedEq, remainingEq]
    exact ⟨fitsNew, newConserved, newBelow⟩

theorem step (step : m.Step m') : m'.Tally := by
  obtain ⟨op, f, f', success⟩ := step
  cases op with
  | addItem line at_ =>
    obtain ⟨⟨m'', item⟩, run, rfl⟩ := Cmd.run_map_eq_ok.mp success
    obtain ⟨-, -, -, -, -, -, -, -, -, -, rfl⟩ := addItem_eq_ok run
    exact tally.keep rfl rfl rfl rfl rfl
  | linkEntry target at_ =>
    obtain ⟨changed, -⟩ := Cmd.run_check_eq_ok.mp success
    rw [linkEntry_eq_ok changed]
    exact tally.keep rfl rfl rfl rfl rfl
  | apply target amount remark at_ =>
    obtain ⟨⟨m'', env⟩, run, rfl⟩ := Cmd.run_map_eq_ok.mp success
    exact tally.apply run
  | void reason at_ =>
    obtain ⟨⟨m'', env⟩, run, rfl⟩ := Cmd.run_map_eq_ok.mp success
    obtain ⟨-, -, -, rfl⟩ := void_eq_ok run
    exact tally.close rfl rfl tally.applied_nonneg rfl
  | refund method at_ =>
    obtain ⟨⟨m'', env⟩, run, rfl⟩ := Cmd.run_map_eq_ok.mp success
    obtain ⟨-, -, -, rfl⟩ := refund_eq_ok run
    exact tally.close rfl rfl tally.total_pos.le rfl
  | setRemark remark at_ =>
    simp [exec] at success
    obtain ⟨rfl, -⟩ := success
    exact tally.keep rfl rfl rfl rfl rfl

/-- An application does not abort while the total fits at the scale of every application and
of the new one: the new applied amount is then an exact sum within the total. -/
theorem noAbortFrom_apply {target : Uuid} {amount : Money} {remark : String} {at_ : Instant}
    (fits : m.FitsApplications) (fitsNew : m.total.FitsAt amount.amount.scale) :
    (m.apply target amount remark at_).NoAbortFrom f := by
  simp only [Memo.apply]
  simp
  intro open_ _ _ value valid above
  obtain ⟨fitsApplied, conserved, -⟩ := tally.exact fits open_
  obtain ⟨-, positive, rfl⟩ := Validate.positiveAmount_eq_ok.mp valid
  have valuePos : 0 < amount.amount.value := Decimal.isPositive_iff.mp positive
  have within : amount.amount.value ≤ m.remaining.value :=
    not_lt.mp fun exceeds => by simp [Decimal.lt_iff.mpr exceeds] at above
  obtain ⟨sum, added, sumValue, -⟩ := Decimal.add?_within fitsApplied fitsNew
    tally.applied_nonneg valuePos.le (by linarith)
  obtain ⟨rest, difference⟩ := Decimal.sub?_isSome_of_nonneg tally.total_pos.le
    (by rw [sumValue]; linarith [tally.applied_nonneg])
  exact ⟨sum, added, rest, difference, by simp [announce]⟩

end Tally

theorem tally_of_reachable (reach : m.Reachable) : m.Tally := by
  obtain ⟨d, m₀, ⟨side, f, env, f', opened⟩, run⟩ := reach
  induction run with
  | refl => exact tally_created opened
  | tail _ step ih => exact ih.step step

end Memo

/-- Whether the amount of a command fits at the scale of the memo's total; only an application
carries one. -/
def MemoOp.Fits (m : Memo) : MemoOp → Prop
  | .apply _ amount _ _ => m.total.FitsAt amount.amount.scale
  | _ => True

theorem Memo.noAbort_exec {m : Memo} (reach : m.Reachable) (fits : m.FitsApplications)
    (op : MemoOp) (fitsOp : op.Fits m) : (m.exec op).NoAbort := by
  intro f
  cases op with
  | apply target amount remark at_ =>
    simpa [exec] using (tally_of_reachable reach).noAbortFrom_apply fits fitsOp
  | addItem line at_ =>
    simp [exec, addItem]
    -- past the four guards, the line amount is a checked product, refused when it overflows
    intro _ _ _ _
    split <;> simp
  | linkEntry target at_ => simp [exec]
  | void reason at_ => simp [exec, void, announce]
  | refund method at_ => simp [exec, refund, announce]
  | setRemark remark at_ => simp [exec]

end Subledger
