import Subledger.Proofs.Voucher.Allocation

/-! # The voucher state machine

A voucher is drafted, confirmed, and then allocated to receivables or payables, one allocation
per entry, until nothing is left; a draft or a confirmed voucher nothing was allocated from can
be cancelled. Along every run from the factory the allocations are this voucher's, positive and
to distinct entries; the status says allocated exactly when nothing is left to allocate; a draft
has neither allocations nor a confirmation; a cancelled voucher has no allocations; and an
allocated or cancelled voucher refuses every command. An allocated voucher still passes the
state check of an allocation: it is the amount check that refuses, since nothing is left.
Main statement: `Voucher.allocation_books_of_reachable`.
-/

namespace Subledger

namespace VoucherStatus

variable {s : VoucherStatus}

theorem eq_draft_of_canConfirm (h : s.canConfirm = true) : s = .draft := by
  cases s <;> simp_all [canConfirm]

theorem eq_confirmed_or_allocated (h : s.canAllocate = true) : s = .confirmed ∨ s = .allocated := by
  cases s <;> simp_all [canAllocate]

theorem canConfirm_eq_false (h : s.isTerminal = true) : s.canConfirm = false := by
  cases s <;> simp_all [isTerminal, canConfirm]

theorem canCancel_eq_false (h : s.isTerminal = true) : s.canCancel = false := by
  cases s <;> simp_all [isTerminal, canCancel]

end VoucherStatus

namespace Voucher

variable {v v' : Voucher} {f f' : Fresh}

/-! ## The tally with and without allocations -/

namespace Tally

variable (tally : v.Tally)
include tally

theorem eq_of_nil (none_ : v.allocations = []) :
    v.allocated = Decimal.zero ∧ v.unallocated = v.amount := by
  have sum := tally.allocated_sum
  rw [none_, List.map_nil, Decimal.sum?_nil, Option.some.injEq] at sum
  have nonzero : v.amount.mantissa ≠ 0 := fun zero =>
    tally.amount_pos.ne' (Decimal.value_eq_zero_iff.mpr zero)
  have difference := tally.unallocated_eq
  rw [← sum, Decimal.sub?_zero nonzero, Option.some.injEq] at difference
  exact ⟨sum.symm, difference.symm⟩

theorem unallocated_isZero_of_nil (none_ : v.allocations = []) :
    v.unallocated.isZero = false := by
  rw [(tally.eq_of_nil none_).2]
  cases zero : v.amount.isZero
  · rfl
  · exact absurd (Decimal.isZero_iff.mp zero) tally.amount_pos.ne'

theorem allocated_pos (some_ : v.allocations ≠ []) : 0 < v.allocated.value :=
  Decimal.sum?_pos (List.forall_mem_map.mpr tally.allocation_pos)
    (by simpa using some_) tally.allocated_sum

end Tally

theorem exceeds_of_isZero {amount : Money} (zero : v.unallocated.isZero = true)
    (positive : amount.isPositive = true) : v.unallocated.lt amount.amount = true := by
  rw [Decimal.lt_iff, Decimal.isZero_iff.mp zero]
  exact Decimal.isPositive_iff.mp positive

theorem allocationFor?_of_mem {a : Allocation} (nodup : (v.allocations.map (·.target)).Nodup)
    (member : a ∈ v.allocations) : v.allocationFor? a.target = some a := by
  unfold allocationFor?
  cases found : v.allocations.find? (·.target == a.target) with
  | none =>
    have := List.find?_eq_none.mp found a member
    simp at this
  | some b =>
    have same : b.target = a.target := by simpa using List.find?_some found
    rw [List.inj_on_of_nodup_map nodup (List.mem_of_find?_eq_some found) member same]

/-! ## Allocated and cancelled vouchers -/

section Closed

variable (closed : v.status.isTerminal = true)
include closed

theorem confirm_of_isTerminal {user : Uuid} {at_ : Instant} :
    (v.confirm user at_).run f =
      .error (.refused (.invalidState s!"Cannot confirm voucher in {v.status.tag} status")) := by
  simp [confirm, VoucherStatus.canConfirm_eq_false closed]

theorem cancel_of_isTerminal {user : Uuid} {reason : String} {at_ : Instant} :
    (v.cancel user reason at_).run f =
      .error (.refused (.invalidState s!"Cannot cancel voucher in {v.status.tag} status")) := by
  simp [cancel, VoucherStatus.canCancel_eq_false closed]

theorem setReference_of_isTerminal {reference : String} {at_ : Instant} :
    v.setReference reference at_ = .error (.invalidState "Cannot modify voucher in terminal state") := by
  simp [setReference, editable, closed]

theorem setRemark_of_isTerminal {remark : String} {at_ : Instant} :
    v.setRemark remark at_ = .error (.invalidState "Cannot modify voucher in terminal state") := by
  simp [setRemark, editable, closed]

end Closed

/-- A voucher with nothing left refuses every allocation before any arithmetic: no positive
amount is within what is left. -/
theorem allocate_refused_of_isZero (zero : v.unallocated.isZero = true) (target : Uuid)
    (targetNumber : String) (amount : Money) (remark : String) (at_ : Instant) :
    ∃ e, (v.allocate target targetNumber amount remark at_).run f = .error (.refused e) := by
  cases run : (v.allocate target targetNumber amount remark at_).run f with
  | ok r =>
    obtain ⟨⟨v', allocation, env⟩, f'⟩ := r
    obtain ⟨-, -, -, -, positive, within, -⟩ := allocate_eq_ok run
    simp [exceeds_of_isZero zero positive] at within
  | error failure =>
    have safe : (v.allocate target targetNumber amount remark at_).NoAbortFrom f := by
      simp only [allocate]
      simp
      intro _ _ _ _ _ value valid within
      obtain ⟨-, positive, rfl⟩ := Validate.positiveAmount_eq_ok.mp valid
      simp [exceeds_of_isZero zero positive] at within
    obtain ⟨e, rfl⟩ := safe.eq_refused run
    exact ⟨e, rfl⟩

/-! ## What every run keeps -/

/-- The bookkeeping and the life cycle of a voucher, kept along every run from the factory. -/
structure Consistent (v : Voucher) : Prop where
  tally : v.Tally
  /-- Every allocation is drawn from this voucher. -/
  allocation_voucher : ∀ a ∈ v.allocations, a.voucher = v.id
  /-- No two allocations go to the same receivable or payable. -/
  targets_nodup : (v.allocations.map (·.target)).Nodup
  /-- A voucher is allocated exactly when nothing is left to allocate. -/
  allocated_iff : v.status = .allocated ↔ v.unallocated.isZero = true
  /-- A draft has no allocations and no confirmation. -/
  draft : v.status = .draft → v.allocations = [] ∧ v.confirmedAt = none ∧ v.confirmedBy = none
  /-- A cancelled voucher has no allocations. -/
  cancelled : v.status = .cancelled → v.allocations = []
  /-- A voucher open to allocation was confirmed by someone. -/
  confirmed : v.status.canAllocate = true → v.confirmedBy.isSome = true
  /-- Only a voucher open to allocation has allocations. -/
  allocations_open : v.allocations ≠ [] → v.status.canAllocate = true

theorem consistent_opened {side : Side} {d : VoucherDraft} {env : Envelope VoucherEvent}
    (success : (create side d).run f = .ok ((v, env), f')) : v.Consistent := by
  have tally := tally_opened success
  obtain ⟨-, -, -, -, -, -, allocations, draft, confirmedAt, confirmedBy⟩ := create_eq_ok success
  refine
    { tally := tally
      allocation_voucher := by simp [allocations]
      targets_nodup := by simp [allocations]
      allocated_iff := ?_
      draft := fun _ => ⟨allocations, confirmedAt, confirmedBy⟩
      cancelled := fun _ => allocations
      confirmed := by simp [draft, VoucherStatus.canAllocate]
      allocations_open := fun some_ => absurd allocations some_ }
  simp [draft, tally.unallocated_isZero_of_nil allocations]

namespace Consistent

variable (consistent : v.Consistent)
include consistent

/-- A new reference or remark keeps a voucher consistent: its bookkeeping reads neither. -/
theorem edit (reference remark : String) (at_ : Instant) :
    ({ v with reference := reference, remark := remark }.touch at_).Consistent where
  tally := consistent.tally.keep rfl rfl rfl rfl
  allocation_voucher := consistent.allocation_voucher
  targets_nodup := consistent.targets_nodup
  allocated_iff := consistent.allocated_iff
  draft := consistent.draft
  cancelled := consistent.cancelled
  confirmed := consistent.confirmed
  allocations_open := consistent.allocations_open

/-- A confirmation keeps a voucher consistent: the draft it confirms has nothing allocated. -/
theorem confirm {user : Uuid} {at_ : Instant} {env : Envelope VoucherEvent}
    (success : (v.confirm user at_).run f = .ok ((v', env), f')) : v'.Consistent := by
  obtain ⟨draft, -, rfl⟩ := confirm_eq_ok success
  obtain ⟨none_, -, -⟩ := consistent.draft (VoucherStatus.eq_draft_of_canConfirm draft)
  refine
    { tally := consistent.tally.keep rfl rfl rfl rfl
      allocation_voucher := consistent.allocation_voucher
      targets_nodup := consistent.targets_nodup
      allocated_iff := ?_
      draft := fun confirmed => by simp [touch] at confirmed
      cancelled := fun confirmed => by simp [touch] at confirmed
      confirmed := fun _ => rfl
      allocations_open := fun _ => rfl }
  simp [touch, consistent.tally.unallocated_isZero_of_nil none_]

/-- An allocation that goes through finds the voucher confirmed: an allocated voucher has
nothing left, so its amount check refuses every positive amount. -/
theorem eq_confirmed_of_allocate {target : Uuid} {targetNumber : String} {amount : Money}
    {remark : String} {at_ : Instant} {allocation : Allocation} {env : Envelope VoucherEvent}
    (success : (v.allocate target targetNumber amount remark at_).run f =
      .ok ((v', allocation, env), f')) : v.status = .confirmed := by
  obtain ⟨open_, -, -, -, positive, within, -⟩ := allocate_eq_ok success
  refine (VoucherStatus.eq_confirmed_or_allocated open_).resolve_right fun allocated => ?_
  simp [exceeds_of_isZero (consistent.allocated_iff.mp allocated) positive] at within

/-- An allocation keeps a voucher consistent: it adds this voucher's allocation to an entry
not yet allocated to, and marks the voucher allocated exactly when nothing is left. -/
theorem allocate {target : Uuid} {targetNumber : String} {amount : Money} {remark : String}
    {at_ : Instant} {allocation : Allocation} {env : Envelope VoucherEvent}
    (success : (v.allocate target targetNumber amount remark at_).run f =
      .ok ((v', allocation, env), f')) : v'.Consistent := by
  have tally := consistent.tally.allocate success
  have confirmed := consistent.eq_confirmed_of_allocate success
  obtain ⟨-, -, -, -, -, -, untaken, allocated, unallocated, -, -, rfl, rfl⟩ :=
    allocate_eq_ok success
  have fresh : target ∉ v.allocations.map (·.target) := by
    simpa [allocationFor?, List.find?_eq_none] using untaken
  refine
    { tally := tally
      allocation_voucher := ?_
      targets_nodup := ?_
      allocated_iff := ?_
      draft := ?_
      cancelled := ?_
      confirmed := ?_
      allocations_open := ?_ }
  · intro a member
    simp only [touch_allocations, List.mem_append, List.mem_singleton] at member
    rcases member with old | rfl
    · exact consistent.allocation_voucher a old
    · rfl
  · simpa [List.nodup_append, List.map_append] using
      ⟨consistent.targets_nodup, fun a member same => fresh (same ▸ List.mem_map_of_mem member)⟩
  -- the new status is allocated when nothing is left and stays confirmed otherwise
  all_goals cases zero : unallocated.isZero <;>
    simp [touch, zero, confirmed, VoucherStatus.canAllocate, consistent.confirmed]

/-- A cancellation keeps a voucher consistent: nothing allocated means no allocations, since
every allocation is positive. -/
theorem cancel {user : Uuid} {reason : String} {at_ : Instant} {env : Envelope VoucherEvent}
    (success : (v.cancel user reason at_).run f = .ok ((v', env), f')) : v'.Consistent := by
  obtain ⟨-, notAllocated, -, -, rfl⟩ := cancel_eq_ok success
  have none_ : v.allocations = [] := by
    by_contra some_
    have := Decimal.isPositive_iff.mpr (consistent.tally.allocated_pos some_)
    simp [this] at notAllocated
  refine
    { tally := consistent.tally.keep rfl rfl rfl rfl
      allocation_voucher := consistent.allocation_voucher
      targets_nodup := consistent.targets_nodup
      allocated_iff := ?_
      draft := fun draft => by simp [touch] at draft
      cancelled := fun _ => none_
      confirmed := fun open_ => by simp [touch, VoucherStatus.canAllocate] at open_
      allocations_open := fun some_ => absurd none_ some_ }
  simp [touch, consistent.tally.unallocated_isZero_of_nil none_]

theorem step (step : v.Step v') : v'.Consistent := by
  obtain ⟨op, f, f', success⟩ := step
  cases op with
  | confirm user at_ =>
    obtain ⟨⟨v'', env⟩, run, rfl⟩ := Cmd.run_map_eq_ok.mp success
    exact consistent.confirm run
  | allocate target targetNumber amount remark at_ =>
    obtain ⟨⟨v'', allocation, env⟩, run, rfl⟩ := Cmd.run_map_eq_ok.mp success
    exact consistent.allocate run
  | cancel user reason at_ =>
    obtain ⟨⟨v'', env⟩, run, rfl⟩ := Cmd.run_map_eq_ok.mp success
    exact consistent.cancel run
  | setReference reference at_ =>
    obtain ⟨changed, -⟩ := Cmd.run_check_eq_ok.mp success
    obtain ⟨-, -, rfl⟩ := setReference_eq_ok changed
    exact consistent.edit reference v.remark at_
  | setRemark remark at_ =>
    obtain ⟨changed, -⟩ := Cmd.run_check_eq_ok.mp success
    obtain ⟨-, rfl⟩ := setRemark_eq_ok changed
    exact consistent.edit v.reference remark at_

/-- An allocated or cancelled voucher refuses every command: an allocated one is closed to
everything but allocation, and has nothing left to allocate. -/
theorem refused_of_isTerminal (closed : v.status.isTerminal = true) (op : VoucherOp)
    (f : Fresh) : ∃ e, (v.exec op).run f = .error (.refused e) := by
  cases op with
  | confirm user at_ => simp [exec, confirm_of_isTerminal closed]
  | allocate target targetNumber amount remark at_ =>
    have allocatedOrCancelled : v.status = .allocated ∨ v.status = .cancelled := by
      cases status : v.status <;> simp_all [VoucherStatus.isTerminal]
    rcases allocatedOrCancelled with allocated | cancelled
    · obtain ⟨e, run⟩ := allocate_refused_of_isZero (f := f)
        (consistent.allocated_iff.mp allocated) target targetNumber amount remark at_
      simp [exec, run]
    · simp [exec, Voucher.allocate, cancelled, VoucherStatus.canAllocate]
  | cancel user reason at_ => simp [exec, cancel_of_isTerminal closed]
  | setReference reference at_ => simp [exec, setReference_of_isTerminal closed]
  | setRemark remark at_ => simp [exec, setRemark_of_isTerminal closed]

end Consistent

theorem consistent_of_reachable (reach : v.Reachable) : v.Consistent := by
  obtain ⟨d, v₀, ⟨side, f, env, f', opened⟩, run⟩ := reach
  induction run with
  | refl => exact consistent_opened opened
  | tail _ step ih => exact ih.step step

/-- The allocation books of a receipt or payment voucher along every run from the factory. The
allocated amount is the checked running sum of the allocations; each allocation is positive,
drawn from this voucher and made to its own entry, so looking up that entry finds it; the
voucher is allocated exactly when nothing is left; a draft has no allocations and no
confirmation; a cancelled voucher has no allocations and nothing allocated; allocations exist
only once someone confirmed; an allocated or cancelled voucher refuses every command. The
allocated and unallocated amounts add up exactly to the amount, with the unallocated part
between zero and the amount, when the amount fits at the scale of every allocation. -/
theorem allocation_books_of_reachable (v : Voucher) (reach : v.Reachable) :
    Decimal.sum? (v.allocations.map (·.amount)) = some v.allocated ∧
      (∀ a ∈ v.allocations, 0 < a.amount.value ∧ a.voucher = v.id) ∧
      (v.allocations.map (·.target)).Nodup ∧
      (∀ a ∈ v.allocations, v.allocationFor? a.target = some a) ∧
      (v.status = .allocated ↔ v.isFullyAllocated = true) ∧
      (v.status = .draft → v.allocations = [] ∧ v.confirmedAt = none ∧ v.confirmedBy = none) ∧
      (v.status = .cancelled → v.allocations = [] ∧ v.allocated = Decimal.zero) ∧
      (v.allocations ≠ [] → v.confirmedBy.isSome = true) ∧
      (v.status.isTerminal = true → ∀ op f, ∃ e, (v.exec op).run f = .error (.refused e)) ∧
      (v.FitsAllocations → v.allocated.value + v.unallocated.value = v.amount.value ∧
        0 ≤ v.unallocated.value ∧ v.unallocated.value ≤ v.amount.value) := by
  have consistent := consistent_of_reachable reach
  have tally := consistent.tally
  refine ⟨tally.allocated_sum,
    fun a member => ⟨tally.allocation_pos a member, consistent.allocation_voucher a member⟩,
    consistent.targets_nodup, fun a member => allocationFor?_of_mem consistent.targets_nodup member,
    consistent.allocated_iff, consistent.draft, fun cancelled => ?_,
    fun some_ => consistent.confirmed (consistent.allocations_open some_),
    consistent.refused_of_isTerminal, fun fits => ?_⟩
  · have none_ := consistent.cancelled cancelled
    exact ⟨none_, (tally.eq_of_nil none_).1⟩
  · obtain ⟨-, conserved, within⟩ := tally.exact fits
    have nonneg := tally.allocated_nonneg
    exact ⟨conserved, by linarith, by linarith⟩

/-! ## A voucher with no room for one more place -/

/-- A payment voucher for `10 ^ 28 + 1` yuan. -/
def wideDraft : VoucherDraft where
  tenant := Uuid.generated 300
  number := "PV-1"
  party := Uuid.generated 301
  partyName := "Supplier Co"
  amount := ⟨Decimal.wide, .cny⟩
  method := .bankTransfer
  date := ⟨19723, 0, 0⟩
  occurredAt := ⟨19723, 0, 0⟩

/-- The allocation of one and a half yuan from the voucher for `wideDraft` to a payable. -/
def threeHalvesAllocation : Allocation :=
  ⟨Uuid.generated 2, Uuid.generated 0, Uuid.generated 303, "AP-1", Decimal.threeHalves,
    ⟨19725, 0, 0⟩, ""⟩

/-- The voucher for `wideDraft` once confirmed and one and a half yuan allocated: what is left,
`10 ^ 28 - 1 / 2`, has rounded half to even to `10 ^ 28`. -/
def threeHalvesAllocated : Voucher :=
  ⟨.purchases, Uuid.generated 0, wideDraft.tenant, wideDraft.number, wideDraft.party,
    wideDraft.partyName, .cny, Decimal.wide, Decimal.threeHalves, Decimal.octillion,
    .bankTransfer, "", .confirmed, wideDraft.date, [threeHalvesAllocation], "", some ⟨19724, 0, 0⟩,
    some (Uuid.generated 302), none, none, none, 3, wideDraft.occurredAt, ⟨19725, 0, 0⟩⟩

theorem threeHalvesAllocated_reachable : threeHalvesAllocated.Reachable :=
  ⟨wideDraft, _, ⟨.purchases, Fresh.avoiding [], _, _, rfl⟩,
    (Relation.ReflTransGen.single
      ⟨.confirm (Uuid.generated 302) ⟨19724, 0, 0⟩, ⟨2, []⟩, _, rfl⟩).tail
      ⟨.allocate (Uuid.generated 303) "AP-1" ⟨Decimal.threeHalves, .cny⟩ "" ⟨19725, 0, 0⟩,
        ⟨2, []⟩, _, rfl⟩⟩

theorem allocation_books_of_threeHalvesAllocated :
    threeHalvesAllocated.Reachable ∧
      Decimal.sum? (threeHalvesAllocated.allocations.map (·.amount)) =
        some threeHalvesAllocated.allocated ∧
      (∀ a ∈ threeHalvesAllocated.allocations,
        0 < a.amount.value ∧ a.voucher = threeHalvesAllocated.id) ∧
      (threeHalvesAllocated.allocations.map (·.target)).Nodup ∧
      (∀ a ∈ threeHalvesAllocated.allocations,
        threeHalvesAllocated.allocationFor? a.target = some a) ∧
      (threeHalvesAllocated.status = .allocated ↔ threeHalvesAllocated.isFullyAllocated = true) ∧
      (threeHalvesAllocated.status = .draft → threeHalvesAllocated.allocations = [] ∧
        threeHalvesAllocated.confirmedAt = none ∧ threeHalvesAllocated.confirmedBy = none) ∧
      (threeHalvesAllocated.status = .cancelled → threeHalvesAllocated.allocations = [] ∧
        threeHalvesAllocated.allocated = Decimal.zero) ∧
      (threeHalvesAllocated.allocations ≠ [] → threeHalvesAllocated.confirmedBy.isSome = true) ∧
      (threeHalvesAllocated.status.isTerminal = true →
        ∀ op f, ∃ e, (threeHalvesAllocated.exec op).run f = .error (.refused e)) ∧
      (threeHalvesAllocated.FitsAllocations →
        threeHalvesAllocated.allocated.value + threeHalvesAllocated.unallocated.value =
          threeHalvesAllocated.amount.value ∧
        0 ≤ threeHalvesAllocated.unallocated.value ∧
        threeHalvesAllocated.unallocated.value ≤ threeHalvesAllocated.amount.value) :=
  ⟨threeHalvesAllocated_reachable,
    allocation_books_of_reachable threeHalvesAllocated threeHalvesAllocated_reachable⟩

/-- A fractional allocation from an amount with no room for one more place breaks the exact
tally: after one and a half yuan from `10 ^ 28 + 1`, what is left rounds to `10 ^ 28`, so the
allocated and unallocated amounts add up to half a yuan less than the amount. -/
theorem allocated_plus_unallocated_ne_amount :
    ∃ v : Voucher, v.Reachable ∧ v.status = .confirmed ∧
      v.allocated.value + v.unallocated.value ≠ v.amount.value := by
  refine ⟨threeHalvesAllocated, threeHalvesAllocated_reachable, rfl, ?_⟩
  norm_num [threeHalvesAllocated, Decimal.threeHalves, Decimal.octillion, Decimal.wide,
    Decimal.value, Decimal.signed]

/-- Allocating all that is shown as left after the rounding takes the voucher past its amount:
one and a half and `10 ^ 28` sum to `10 ^ 28 + 3 / 2`, which rounds half to even up to
`10 ^ 28 + 2`, and what is left is then `-1` while the voucher stays confirmed. -/
theorem unallocated_neg_of_rounding :
    ∃ v : Voucher, v.Reachable ∧ v.status = .confirmed ∧ v.unallocated = Decimal.minusOne ∧
      v.unallocated.value < 0 := by
  obtain ⟨d, v₀, opened, run⟩ := threeHalvesAllocated_reachable
  refine ⟨_, ⟨d, v₀, opened, run.tail
    ⟨.allocate (Uuid.generated 304) "AP-2" ⟨Decimal.octillion, .cny⟩ "" ⟨19726, 0, 0⟩, ⟨3, []⟩,
      _, rfl⟩⟩,
    rfl, rfl, ?_⟩
  show Decimal.minusOne.value < 0
  norm_num [Decimal.minusOne, Decimal.value, Decimal.signed]

end Voucher

end Subledger
