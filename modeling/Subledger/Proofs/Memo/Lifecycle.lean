import Subledger.Proofs.Memo.Application

/-! # The memo state machine

A memo collects returned lines while pending, is offset against receivables or payables by
applications until nothing remains, and ends applied, voided (when nothing was applied) or
refunded (what remains is paid back, and the whole total counts as applied). Along every run
from the factory: an open memo is pending exactly when nothing was applied from it; a partial
memo has something left; an applied memo has nothing left and its applications add up to its
total; a voided memo has no applications; a refunded memo had less applied than its total.
Every application and every line belongs to the memo, each line passed its checks, and the
lines always sum. Main statement: `Memo.application_books_of_reachable`.
-/

namespace Subledger

@[simp] theorem MemoStatus.canApply_eq (s : MemoStatus) : s.canApply = !s.isTerminal := by
  cases s <;> rfl

namespace Memo

variable {m m' : Memo} {f f' : Fresh}

/-! ## The open tally with and without applications -/

namespace Tally

variable (tally : m.Tally) (open_ : m.status.canApply = true)
include tally open_

theorem eq_of_nil (none_ : m.applications = []) :
    m.applied = Decimal.zero ∧ m.remaining = m.total := by
  have sum := tally.applied_sum open_
  rw [none_, List.map_nil, Decimal.sum?_nil, Option.some.injEq] at sum
  have nonzero : m.total.mantissa ≠ 0 := fun zero =>
    tally.total_pos.ne' (Decimal.value_eq_zero_iff.mpr zero)
  have difference := tally.remaining_eq open_
  rw [← sum, Decimal.sub?_zero nonzero, Option.some.injEq] at difference
  exact ⟨sum.symm, difference.symm⟩

theorem applied_pos (some_ : m.applications ≠ []) : 0 < m.applied.value :=
  Decimal.sum?_pos (List.forall_mem_map.mpr tally.application_pos)
    (by simpa using some_) (tally.applied_sum open_)

end Tally

/-! ## The sum of the lines -/

/-- The lines sum, as `itemsTotal` adds them, exactly when the checked running sum of their
amounts goes through. -/
theorem itemsTotal_isOk_iff :
    (∃ t, m.itemsTotal = .ok t) ↔
      (m.items.foldlM (fun (acc : Decimal) (i : MemoItem) => acc.add? i.amount) Decimal.zero).isSome := by
  unfold itemsTotal
  split <;> simp_all

theorem itemsTotal_append {sum : Money} {item : MemoItem} (total : m.itemsTotal = .ok sum)
    (fits : (sum.amount.add? item.amount).isSome = true) :
    ∃ t, ({ m with items := m.items ++ [item] }.touch at_).itemsTotal = .ok t := by
  have running : m.items.foldlM (fun (acc : Decimal) (i : MemoItem) => acc.add? i.amount) Decimal.zero =
      some sum.amount := by
    unfold itemsTotal at total
    split at total
    · rename_i t found
      cases total
      exact found
    · cases total
  rw [itemsTotal_isOk_iff]
  simpa [touch, List.foldlM_append, running] using fits

/-! ## What every run keeps -/

/-- The bookkeeping and the life cycle of a memo, kept along every run from the factory. -/
structure Consistent (m : Memo) : Prop where
  tally : m.Tally
  /-- Every application is drawn from this memo. -/
  application_memo : ∀ a ∈ m.applications, a.memo = m.id
  /-- An open memo is pending exactly when nothing was applied from it. -/
  pending_iff : m.status.isTerminal = false → (m.status = .pending ↔ m.applications = [])
  /-- A partial memo has something left. -/
  partlyApplied : m.status = .partlyApplied → m.remaining.isZero = false
  /-- An applied memo has nothing left, and its applications add up to its total. -/
  applied : m.status = .applied → m.remaining.isZero = true ∧
    m.applied.value = m.total.value ∧
    Decimal.sum? (m.applications.map (·.amount)) = some m.applied
  /-- A voided memo has nothing applied and nothing left. -/
  voided : m.status = .voided →
    m.applied = Decimal.zero ∧ m.applications = [] ∧ m.remaining = Decimal.zero
  /-- A refunded memo counts its whole total as applied; its applications added up to less. -/
  refunded : m.status = .refunded → m.remaining = Decimal.zero ∧ m.applied = m.total ∧
    ∃ s, Decimal.sum? (m.applications.map (·.amount)) = some s ∧ s.value < m.total.value
  /-- Every line belongs to this memo and passed its checks. -/
  item_checked : ∀ i ∈ m.items, i.memo = m.id ∧ 0 < i.quantity.value ∧
    0 ≤ i.unitPrice.value ∧ i.quantity.mul? i.unitPrice = some i.amount
  /-- The lines sum. -/
  itemsTotal_ok : ∃ t, m.itemsTotal = .ok t

theorem consistent_created {side : Side} {d : MemoDraft} {env : Envelope MemoEvent}
    (success : (create side d).run f = .ok ((m, env), f')) : m.Consistent := by
  have tally := tally_created success
  obtain ⟨-, -, -, -, -, -, applications, pending, items⟩ := create_eq_ok success
  refine
    { tally := tally
      application_memo := by simp [applications]
      pending_iff := fun _ => by simp [pending, applications]
      partlyApplied := by simp [pending]
      applied := by simp [pending]
      voided := by simp [pending]
      refunded := by simp [pending]
      item_checked := by simp [items]
      itemsTotal_ok := ⟨⟨Decimal.zero, m.currency⟩, by simp [itemsTotal, items]⟩ }

namespace Consistent

variable (consistent : m.Consistent)
include consistent

/-- Linking an entry or a new remark keeps a memo consistent: its bookkeeping reads neither. -/
theorem edit (linked : Option Uuid) (remark : String) (at_ : Instant) :
    ({ m with linkedEntry := linked, remark := remark }.touch at_).Consistent where
  tally := consistent.tally.keep rfl rfl rfl rfl rfl
  application_memo := consistent.application_memo
  pending_iff := consistent.pending_iff
  partlyApplied := consistent.partlyApplied
  applied := consistent.applied
  voided := consistent.voided
  refunded := consistent.refunded
  item_checked := consistent.item_checked
  itemsTotal_ok := consistent.itemsTotal_ok

/-- A new line keeps a memo consistent: it passed its checks and its amount fits onto the sum
of the others. -/
theorem addItem {line : MemoLine} {at_ : Instant} {item : MemoItem}
    (success : (m.addItem line at_).run f = .ok ((m', item), f')) : m'.Consistent := by
  obtain ⟨-, quantity, -, notNegative, amount, sum, product, total, fits, rfl, rfl⟩ :=
    addItem_eq_ok success
  refine
    { tally := consistent.tally.keep rfl rfl rfl rfl rfl
      application_memo := consistent.application_memo
      pending_iff := consistent.pending_iff
      partlyApplied := consistent.partlyApplied
      applied := consistent.applied
      voided := consistent.voided
      refunded := consistent.refunded
      item_checked := ?_
      itemsTotal_ok := itemsTotal_append total fits }
  intro i member
  simp only [touch, List.mem_append, List.mem_singleton] at member
  rcases member with old | rfl
  · exact consistent.item_checked i old
  · exact ⟨rfl, Decimal.isPositive_iff.mp quantity,
      Decimal.value_nonneg_of_isNegative_eq_false notNegative, product⟩

/-- An application keeps a memo consistent: it adds this memo's application, and the memo is
applied, with its applications adding up to its total, exactly when nothing remains. -/
theorem apply {target : Uuid} {amount : Money} {remark : String} {at_ : Instant}
    {env : Envelope MemoEvent}
    (success : (m.apply target amount remark at_).run f = .ok ((m', env), f')) :
    m'.Consistent := by
  have tally := consistent.tally.apply success
  obtain ⟨open_, -, -, -, -, applied, remaining, sum, difference, result⟩ := apply_eq_ok success
  have appliedSum : Decimal.sum? ((m.applications ++
      [(⟨f.peek, m.id, target, amount.amount, at_, remark⟩ : MemoApplication)]).map (·.amount)) =
        some applied := by
    simp [Decimal.sum?_append_singleton, consistent.tally.applied_sum open_, sum]
  have fromMemo : ∀ a ∈ m.applications ++
      [(⟨f.peek, m.id, target, amount.amount, at_, remark⟩ : MemoApplication)], a.memo = m.id := by
    intro a member
    rw [List.mem_append, List.mem_singleton] at member
    rcases member with old | rfl
    · exact consistent.application_memo a old
    · rfl
  -- the new status depends only on whether anything remains
  subst result
  cases zero : remaining.isZero
  · simp only [zero, Bool.false_eq_true, ↓reduceIte] at tally ⊢
    exact
      { tally := tally
        application_memo := fromMemo
        pending_iff := fun _ => by simp [touch]
        partlyApplied := fun _ => zero
        applied := fun status => by simp at status
        voided := fun status => by simp at status
        refunded := fun status => by simp at status
        item_checked := consistent.item_checked
        itemsTotal_ok := consistent.itemsTotal_ok }
  · simp only [zero, ↓reduceIte] at tally ⊢
    exact
      { tally := tally
        application_memo := fromMemo
        pending_iff := fun open_ => by simp [MemoStatus.isTerminal] at open_
        partlyApplied := fun status => by simp at status
        applied := fun _ => ⟨zero, (Decimal.sub?_eq_zero difference zero).symm, appliedSum⟩
        voided := fun status => by simp at status
        refunded := fun status => by simp at status
        item_checked := consistent.item_checked
        itemsTotal_ok := consistent.itemsTotal_ok }

/-- A void keeps a memo consistent: nothing applied means no applications, since every
application is positive. -/
theorem void {reason : String} {at_ : Instant} {env : Envelope MemoEvent}
    (success : (m.void reason at_).run f = .ok ((m', env), f')) : m'.Consistent := by
  obtain ⟨open_, notApplied, -, rfl⟩ := void_eq_ok success
  have canApply : m.status.canApply = true := by simp [open_]
  have none_ : m.applications = [] := by
    by_contra some_
    have := Decimal.isPositive_iff.mpr (consistent.tally.applied_pos canApply some_)
    simp [this] at notApplied
  exact
    { tally := consistent.tally.close rfl rfl consistent.tally.applied_nonneg rfl
      application_memo := consistent.application_memo
      pending_iff := fun closed => by simp [touch, MemoStatus.isTerminal] at closed
      partlyApplied := fun status => by simp [touch] at status
      applied := fun status => by simp [touch] at status
      voided := fun _ => ⟨(consistent.tally.eq_of_nil canApply none_).1, none_, rfl⟩
      refunded := fun status => by simp [touch] at status
      item_checked := consistent.item_checked
      itemsTotal_ok := consistent.itemsTotal_ok }

/-- A refund keeps a memo consistent: something remained, so what was applied, the sum of the
applications, was below the total. -/
theorem refund {method : String} {at_ : Instant} {env : Envelope MemoEvent}
    (success : (m.refund method at_).run f = .ok ((m', env), f')) : m'.Consistent := by
  obtain ⟨open_, remains, -, rfl⟩ := refund_eq_ok success
  have below : m.applied.value < m.total.value :=
    Decimal.lt_of_sub?_pos (consistent.tally.remaining_eq open_)
      (Decimal.isPositive_iff.mp remains)
  exact
    { tally := consistent.tally.close rfl rfl consistent.tally.total_pos.le rfl
      application_memo := consistent.application_memo
      pending_iff := fun closed => by simp [touch, MemoStatus.isTerminal] at closed
      partlyApplied := fun status => by simp [touch] at status
      applied := fun status => by simp [touch] at status
      voided := fun status => by simp [touch] at status
      refunded := fun _ => ⟨rfl, rfl, m.applied, consistent.tally.applied_sum open_, below⟩
      item_checked := consistent.item_checked
      itemsTotal_ok := consistent.itemsTotal_ok }

theorem step (step : m.Step m') : m'.Consistent := by
  obtain ⟨op, f, f', success⟩ := step
  cases op with
  | addItem line at_ =>
    obtain ⟨⟨m'', item⟩, run, rfl⟩ := Cmd.run_map_eq_ok.mp success
    exact consistent.addItem run
  | linkEntry target at_ =>
    obtain ⟨changed, -⟩ := Cmd.run_check_eq_ok.mp success
    rw [linkEntry_eq_ok changed]
    exact consistent.edit (some target) m.remark at_
  | apply target amount remark at_ =>
    obtain ⟨⟨m'', env⟩, run, rfl⟩ := Cmd.run_map_eq_ok.mp success
    exact consistent.apply run
  | void reason at_ =>
    obtain ⟨⟨m'', env⟩, run, rfl⟩ := Cmd.run_map_eq_ok.mp success
    exact consistent.void run
  | refund method at_ =>
    obtain ⟨⟨m'', env⟩, run, rfl⟩ := Cmd.run_map_eq_ok.mp success
    exact consistent.refund run
  | setRemark remark at_ =>
    simp only [exec, StateT.run_pure] at success
    obtain ⟨rfl, -⟩ := success
    exact consistent.edit m.linkedEntry remark at_

end Consistent

/-- Lines are added only to a pending memo, one at a time; no other command touches them. -/
theorem Step.items (step : m.Step m') :
    m'.items = m.items ∨ m.status = .pending ∧ ∃ i, m'.items = m.items ++ [i] := by
  obtain ⟨op, f, f', success⟩ := step
  cases op with
  | addItem line at_ =>
    obtain ⟨⟨m'', item⟩, run, rfl⟩ := Cmd.run_map_eq_ok.mp success
    obtain ⟨pending, -, -, -, -, -, -, -, -, -, rfl⟩ := addItem_eq_ok run
    exact .inr ⟨pending, item, rfl⟩
  | linkEntry target at_ =>
    obtain ⟨changed, -⟩ := Cmd.run_check_eq_ok.mp success
    rw [linkEntry_eq_ok changed]
    exact .inl rfl
  | apply target amount remark at_ =>
    obtain ⟨⟨m'', env⟩, run, rfl⟩ := Cmd.run_map_eq_ok.mp success
    obtain ⟨-, -, -, -, -, applied, remaining, -, -, result⟩ := apply_eq_ok run
    rw [result]
    split <;> exact .inl rfl
  | void reason at_ =>
    obtain ⟨⟨m'', env⟩, run, rfl⟩ := Cmd.run_map_eq_ok.mp success
    obtain ⟨-, -, -, rfl⟩ := void_eq_ok run
    exact .inl rfl
  | refund method at_ =>
    obtain ⟨⟨m'', env⟩, run, rfl⟩ := Cmd.run_map_eq_ok.mp success
    obtain ⟨-, -, -, rfl⟩ := refund_eq_ok run
    exact .inl rfl
  | setRemark remark at_ =>
    simp only [exec, StateT.run_pure] at success
    obtain ⟨rfl, -⟩ := success
    exact .inl rfl

theorem consistent_of_reachable (reach : m.Reachable) : m.Consistent := by
  obtain ⟨d, m₀, ⟨side, f, env, f', created⟩, run⟩ := reach
  induction run with
  | refl => exact consistent_created created
  | tail _ step ih => exact ih.step step

/-- While open, a consistent memo whose total fits at the scale of every application has its
applied and remaining amounts add up exactly to the total, and something remains: a pending
memo has its whole total left and a partial one has something left. -/
theorem Consistent.exact (consistent : m.Consistent) (fits : m.FitsApplications)
    (open_ : m.status.canApply = true) :
    m.applied.value + m.remaining.value = m.total.value ∧ 0 < m.remaining.value := by
  obtain ⟨-, conserved, within⟩ := consistent.tally.exact fits open_
  refine ⟨conserved, lt_of_le_of_ne (by linarith) fun zero => ?_⟩
  have notTerminal : m.status.isTerminal = false := by simpa using open_
  cases status : m.status
  case pending =>
    have none_ := (consistent.pending_iff notTerminal).mp status
    rw [(consistent.tally.eq_of_nil open_ none_).2] at zero
    exact consistent.tally.total_pos.ne zero
  case partlyApplied =>
    have := consistent.partlyApplied status
    rw [← Bool.not_eq_true, Decimal.isZero_iff] at this
    exact this zero.symm
  all_goals simp [status, MemoStatus.isTerminal] at notTerminal

/-- The application books of a credit or debit memo along every run from the factory. While
the memo is open its applied amount is the checked running sum of its applications, and it is
pending exactly when it has none. An applied memo has nothing left, and its applied amount,
the sum of its applications, equals its total. A voided memo has nothing applied, no
applications and nothing left. A refunded memo has nothing left and its total counted as
applied, while its applications add up to less. Every application is positive and drawn from
this memo; every line has a positive quantity, a unit price not below zero and the checked
product as its amount; lines are added only to a pending memo; the lines always sum. While
open, the applied and remaining amounts add up exactly to the total and something remains,
when the total fits at the scale of every application. -/
theorem application_books_of_reachable (m : Memo) (reach : m.Reachable) :
    (m.status.canApply = true →
      Decimal.sum? (m.applications.map (·.amount)) = some m.applied) ∧
      (m.status.isTerminal = false → (m.status = .pending ↔ m.applications = [])) ∧
      (m.status = .applied → m.remaining.value = 0 ∧ m.applied.value = m.total.value ∧
        Decimal.sum? (m.applications.map (·.amount)) = some m.applied) ∧
      (m.status = .voided →
        m.applied = Decimal.zero ∧ m.applications = [] ∧ m.remaining = Decimal.zero) ∧
      (m.status = .refunded → m.remaining = Decimal.zero ∧ m.applied = m.total ∧
        ∃ s, Decimal.sum? (m.applications.map (·.amount)) = some s ∧ s.value < m.total.value) ∧
      (∀ a ∈ m.applications, 0 < a.amount.value ∧ a.memo = m.id) ∧
      (∀ i ∈ m.items, 0 < i.quantity.value ∧ 0 ≤ i.unitPrice.value ∧
        i.quantity.mul? i.unitPrice = some i.amount) ∧
      (∀ m', m.Step m' →
        m'.items = m.items ∨ m.status = .pending ∧ ∃ i, m'.items = m.items ++ [i]) ∧
      (∃ t, m.itemsTotal = .ok t) ∧
      (m.FitsApplications → m.status.canApply = true →
        m.applied.value + m.remaining.value = m.total.value ∧ 0 < m.remaining.value) := by
  have consistent := consistent_of_reachable reach
  refine ⟨consistent.tally.applied_sum, consistent.pending_iff, fun applied => ?_,
    consistent.voided, consistent.refunded,
    fun a member => ⟨consistent.tally.application_pos a member,
      consistent.application_memo a member⟩,
    fun i member => (consistent.item_checked i member).2, fun _ step => step.items,
    consistent.itemsTotal_ok, consistent.exact⟩
  obtain ⟨zero, total, sum⟩ := consistent.applied applied
  exact ⟨Decimal.isZero_iff.mp zero, total, sum⟩

/-! ## A memo with no room for one more place -/

/-- A debit memo for `10 ^ 28 + 1` yuan. -/
def wideDraft : MemoDraft where
  tenant := Uuid.generated 400
  number := "DM-1"
  returnDoc := Uuid.generated 401
  returnNumber := "PR-1"
  order := Uuid.generated 402
  orderNumber := "PO-1"
  party := Uuid.generated 403
  partyName := "Supplier Co"
  total := ⟨Decimal.wide, .cny⟩
  reason := "Returned goods"
  occurredAt := ⟨19723, 0, 0⟩

/-- The application of one and a half yuan from the memo for `wideDraft` to a payable. -/
def threeHalvesApplication : MemoApplication :=
  ⟨Uuid.generated 2, Uuid.generated 0, Uuid.generated 404, Decimal.threeHalves, ⟨19724, 0, 0⟩,
    ""⟩

/-- The memo for `wideDraft` once one and a half yuan is applied: what remains,
`10 ^ 28 - 1 / 2`, has rounded half to even to `10 ^ 28`. -/
def threeHalvesApplied : Memo :=
  ⟨.purchases, Uuid.generated 0, wideDraft.tenant, wideDraft.number, wideDraft.returnDoc,
    wideDraft.returnNumber, wideDraft.order, wideDraft.orderNumber, wideDraft.party,
    wideDraft.partyName, none, [], .cny, Decimal.wide, Decimal.threeHalves, Decimal.octillion,
    .partlyApplied, [threeHalvesApplication], wideDraft.reason, "", none, none, none, none, none,
    2, wideDraft.occurredAt, ⟨19724, 0, 0⟩⟩

theorem threeHalvesApplied_reachable : threeHalvesApplied.Reachable :=
  ⟨wideDraft, _, ⟨.purchases, Fresh.avoiding [], _, _, rfl⟩,
    .single ⟨.apply (Uuid.generated 404) ⟨Decimal.threeHalves, .cny⟩ "" ⟨19724, 0, 0⟩, ⟨2, []⟩,
      _, rfl⟩⟩

theorem application_books_of_threeHalvesApplied :
    threeHalvesApplied.Reachable ∧
      (threeHalvesApplied.status.canApply = true →
        Decimal.sum? (threeHalvesApplied.applications.map (·.amount)) =
          some threeHalvesApplied.applied) ∧
      (threeHalvesApplied.status.isTerminal = false →
        (threeHalvesApplied.status = .pending ↔ threeHalvesApplied.applications = [])) ∧
      (threeHalvesApplied.status = .applied → threeHalvesApplied.remaining.value = 0 ∧
        threeHalvesApplied.applied.value = threeHalvesApplied.total.value ∧
        Decimal.sum? (threeHalvesApplied.applications.map (·.amount)) =
          some threeHalvesApplied.applied) ∧
      (threeHalvesApplied.status = .voided → threeHalvesApplied.applied = Decimal.zero ∧
        threeHalvesApplied.applications = [] ∧ threeHalvesApplied.remaining = Decimal.zero) ∧
      (threeHalvesApplied.status = .refunded → threeHalvesApplied.remaining = Decimal.zero ∧
        threeHalvesApplied.applied = threeHalvesApplied.total ∧
        ∃ s, Decimal.sum? (threeHalvesApplied.applications.map (·.amount)) = some s ∧
          s.value < threeHalvesApplied.total.value) ∧
      (∀ a ∈ threeHalvesApplied.applications,
        0 < a.amount.value ∧ a.memo = threeHalvesApplied.id) ∧
      (∀ i ∈ threeHalvesApplied.items, 0 < i.quantity.value ∧ 0 ≤ i.unitPrice.value ∧
        i.quantity.mul? i.unitPrice = some i.amount) ∧
      (∀ m', threeHalvesApplied.Step m' → m'.items = threeHalvesApplied.items ∨
        threeHalvesApplied.status = .pending ∧ ∃ i, m'.items = threeHalvesApplied.items ++ [i]) ∧
      (∃ t, threeHalvesApplied.itemsTotal = .ok t) ∧
      (threeHalvesApplied.FitsApplications → threeHalvesApplied.status.canApply = true →
        threeHalvesApplied.applied.value + threeHalvesApplied.remaining.value =
          threeHalvesApplied.total.value ∧ 0 < threeHalvesApplied.remaining.value) :=
  ⟨threeHalvesApplied_reachable,
    application_books_of_reachable threeHalvesApplied threeHalvesApplied_reachable⟩

/-- A fractional application from a total with no room for one more place breaks the exact
tally: after one and a half yuan from `10 ^ 28 + 1`, what remains rounds to `10 ^ 28`, so the
applied and remaining amounts of the partial memo add up to half a yuan less than the total. -/
theorem applied_plus_remaining_ne_total :
    ∃ m : Memo, m.Reachable ∧ m.status = .partlyApplied ∧
      m.applied.value + m.remaining.value ≠ m.total.value := by
  refine ⟨threeHalvesApplied, threeHalvesApplied_reachable, rfl, ?_⟩
  norm_num [threeHalvesApplied, Decimal.threeHalves, Decimal.octillion, Decimal.wide,
    Decimal.value, Decimal.signed]

/-- Applying all that is shown as remaining after the rounding takes the memo past its total:
one and a half and `10 ^ 28` sum to `10 ^ 28 + 3 / 2`, which rounds half to even up to
`10 ^ 28 + 2`, and the memo is left partial with `-1` remaining. -/
theorem remaining_neg_of_rounding :
    ∃ m : Memo, m.Reachable ∧ m.status = .partlyApplied ∧ m.remaining = Decimal.minusOne ∧
      m.remaining.value < 0 := by
  obtain ⟨d, m₀, created, run⟩ := threeHalvesApplied_reachable
  refine ⟨_, ⟨d, m₀, created, run.tail
    ⟨.apply (Uuid.generated 405) ⟨Decimal.octillion, .cny⟩ "" ⟨19725, 0, 0⟩, ⟨3, []⟩, _, rfl⟩⟩,
    rfl, rfl, ?_⟩
  show Decimal.minusOne.value < 0
  norm_num [Decimal.minusOne, Decimal.value, Decimal.signed]

end Memo

end Subledger
