import Mathlib.Algebra.Order.BigOperators.Group.List
import Subledger.Proofs.Decimal.Value
import Subledger.Proofs.Ledger.Step

/-! # Conservation of ledger balances

A receivable or payable keeps its books: the total and currency it was opened with, a paid
amount that is the checked running sum of all its payment records, and for each state the facts
that tie the paid and outstanding amounts to the total. After every payment the outstanding
amount is recomputed as the total less the paid amount, and both decimal operations round once
a result has more digits than fit. The exact law `paid + outstanding = total` therefore holds as
long as the total, written at the scale of every payment, fits in the mantissa; a payment with
more places than that can leave the two amounts apart, and even push the paid amount past the
total.
-/

namespace Subledger

/-- Whether the payments of an entry stand: pending, partial or paid, but not reversed or
cancelled. -/
def LedgerStatus.isStanding : LedgerStatus → Bool
  | .pending | .partlyPaid | .paid => true
  | .reversed | .cancelled => false

namespace PaymentRecord

@[simp] theorem new_amount {id owner voucher : Uuid} {amount : Decimal} {remark : String}
    {at_ : Instant} : (new id owner voucher amount remark at_).amount = amount := rfl

@[simp] theorem new_owner {id owner voucher : Uuid} {amount : Decimal} {remark : String}
    {at_ : Instant} : (new id owner voucher amount remark at_).owner = owner := rfl

@[simp] theorem new_status {id owner voucher : Uuid} {amount : Decimal} {remark : String}
    {at_ : Instant} : (new id owner voucher amount remark at_).status = .active := rfl

@[simp] theorem stamp_amount (r : PaymentRecord) (reason : String) (at_ : Instant) :
    (r.stamp reason at_).amount = r.amount := rfl

@[simp] theorem stamp_owner (r : PaymentRecord) (reason : String) (at_ : Instant) :
    (r.stamp reason at_).owner = r.owner := rfl

@[simp] theorem stamp_status (r : PaymentRecord) (reason : String) (at_ : Instant) :
    (r.stamp reason at_).status = .reversed := rfl

end PaymentRecord

namespace Balance

theorem reversedRecords_amounts (reason : String) (at_ : Instant) (records : List PaymentRecord) :
    (reversedRecords reason at_ records).map PaymentRecord.amount =
      records.map PaymentRecord.amount := by
  unfold reversedRecords
  rw [List.map_map]
  congr 1
  funext r
  simp only [Function.comp_apply]
  split <;> rfl

theorem mem_reversedRecords {reason : String} {at_ : Instant} {records : List PaymentRecord}
    {r : PaymentRecord} (member : r ∈ reversedRecords reason at_ records) :
    ∃ r₀ ∈ records, r = if r₀.isActive then r₀.stamp reason at_ else r₀ := by
  obtain ⟨r₀, present, rfl⟩ := List.mem_map.mp member
  exact ⟨r₀, present, rfl⟩

/-- The books of a balance opened for `total`, which every run keeps. -/
structure Books (total : Money) (b : Balance) : Prop where
  /-- The total and currency are those the balance was opened with. -/
  total_eq : b.total = total.amount
  currency_eq : b.currency = total.currency
  total_pos : 0 < b.total.value
  /-- The paid amount is the checked running sum of every record, reversed ones included. -/
  paid_sum : Decimal.sum? (b.records.map PaymentRecord.amount) = some b.paid
  paid_nonneg : 0 ≤ b.paid.value
  /-- Every record pays something into this balance. -/
  record_pos : ∀ r ∈ b.records, 0 < r.amount.value
  record_owner : ∀ r ∈ b.records, r.owner = b.owner
  /-- While payments stand, every record is active and the outstanding amount is the total
  less the paid amount, as a decimal difference. -/
  standing : b.status.isStanding = true →
    (∀ r ∈ b.records, r.status = .active) ∧ Decimal.sub? b.total b.paid = some b.outstanding
  when_pending : b.status = .pending →
    b.records = [] ∧ b.paid = Decimal.zero ∧ b.outstanding = b.total
  when_partial : b.status = .partlyPaid → b.records ≠ [] ∧ b.outstanding.value ≠ 0
  when_paid : b.status = .paid →
    b.outstanding.value = 0 ∧ b.paid.value = b.total.value ∧ b.paidAt.isSome
  when_reversed : b.status = .reversed →
    b.outstanding = Decimal.zero ∧ (∀ r ∈ b.records, r.status = .reversed) ∧
      b.reversedAt.isSome ∧ b.reversalReason.isSome
  when_cancelled : b.status = .cancelled →
    b.records = [] ∧ b.paid = Decimal.zero ∧ b.outstanding = Decimal.zero ∧
      b.cancelledAt.isSome ∧ b.cancelReason.isSome
  /-- When the total fits at the scale of every payment, the standing amounts are exact. -/
  exact : (∀ r ∈ b.records, b.total.FitsAt r.amount.scale) → b.status.isStanding = true →
    b.total.FitsAt b.paid.scale ∧ b.paid.value = (b.records.map (·.amount.value)).sum ∧
      b.paid.value + b.outstanding.value = b.total.value ∧ b.paid.value ≤ b.total.value

theorem isStanding_of_open {s : LedgerStatus} (open_ : s.isTerminal = false) :
    s.isStanding = true := by
  cases s <;> simp_all [LedgerStatus.isTerminal, LedgerStatus.isStanding]

variable {total : Money} {b b' : Balance} {side : Side} {f f' : Fresh}

/-- A balance opens with books: nothing paid and the whole total outstanding. -/
theorem books_opened {owner : Uuid} {dueDate : Option Instant} (positive : total.isPositive = true) :
    (opened owner total dueDate).Books total := by
  have totalPos : 0 < total.amount.value := Decimal.isPositive_iff.mp positive
  have nonzero : total.amount.mantissa ≠ 0 := fun zero =>
    totalPos.ne' (Decimal.value_eq_zero_iff.mpr zero)
  refine
    { total_eq := rfl
      currency_eq := rfl
      total_pos := totalPos
      paid_sum := rfl
      paid_nonneg := by simp [opened]
      record_pos := by simp [opened]
      record_owner := by simp [opened]
      standing := fun _ => ⟨by simp [opened], Decimal.sub?_zero nonzero⟩
      when_pending := fun _ => ⟨rfl, rfl, rfl⟩
      when_partial := nofun
      when_paid := nofun
      when_reversed := nofun
      when_cancelled := nofun
      exact := fun _ _ => ⟨?_, by simp [opened], by simp [opened], ?_⟩ }
  · exact (Decimal.fitsAt_scale total.amount).mono (Nat.zero_le _)
  · simpa [opened] using totalPos.le

namespace Books

variable (books : b.Books total)
include books

/-- A payment keeps the books: it adds a record, its amount to the paid amount, and settles the
entry when nothing is left outstanding. -/
theorem applyPayment {amount : Money} {voucher : Uuid} {remark : String} {at_ : Instant}
    {record : PaymentRecord} {settled : Bool}
    (success : (b.applyPayment side amount voucher remark at_).run f =
      .ok ((b', record, settled), f')) :
    b'.Books total := by
  obtain ⟨open_, -, positive, within, -, paid, outstanding, sum, difference, -, rfl, rfl⟩ :=
    applyPayment_eq_ok success
  have valuePos : 0 < amount.amount.value := Decimal.isPositive_iff.mp positive
  have within : amount.amount.value ≤ b.outstanding.value :=
    not_lt.mp fun above => by simp [Decimal.lt_iff.mpr above] at within
  obtain ⟨active, owed⟩ := books.standing (isStanding_of_open open_)
  have paidSum : Decimal.sum? ((b.records ++ [PaymentRecord.new f.peek b.owner voucher
      amount.amount remark at_]).map PaymentRecord.amount) = some paid := by
    simp [Decimal.sum?_append_singleton, books.paid_sum, sum]
  refine
    { total_eq := books.total_eq
      currency_eq := books.currency_eq
      total_pos := books.total_pos
      paid_sum := paidSum
      paid_nonneg := Decimal.add?_nonneg books.paid_nonneg valuePos.le sum
      -- the new record is active, pays a positive amount and belongs to this balance
      record_pos := List.forall_mem_append.mpr
        ⟨books.record_pos, List.forall_mem_singleton.mpr (by simpa using valuePos)⟩
      record_owner := List.forall_mem_append.mpr
        ⟨books.record_owner, List.forall_mem_singleton.mpr rfl⟩
      standing := fun _ =>
        ⟨List.forall_mem_append.mpr ⟨active, List.forall_mem_singleton.mpr rfl⟩, difference⟩
      when_pending := ?_
      when_partial := ?_
      when_paid := ?_
      when_reversed := ?_
      when_cancelled := ?_
      exact := ?_ }
  · intro pending
    split at pending <;> cases pending
  · intro partial_
    split at partial_
    · cases partial_
    · rename_i open_
      exact ⟨by simp, fun zero => open_ (Decimal.isZero_iff.mpr zero)⟩
  · intro paid_
    split at paid_
    · rename_i settled
      exact ⟨Decimal.isZero_iff.mp settled,
        (Decimal.sub?_eq_zero difference settled).symm, by simp [settled]⟩
    · cases paid_
  · intro reversed
    split at reversed <;> cases reversed
  · intro cancelled
    split at cancelled <;> cases cancelled
  · intro fits _
    obtain ⟨fitsPaid, paidValue, conserved, -⟩ := books.exact
      (fun r member => fits r (List.mem_append_left _ member)) (isStanding_of_open open_)
    obtain ⟨fitsNew, newValue, newConserved, newBelow⟩ := Decimal.add_sub_exact fitsPaid
      (fits _ (List.mem_append_right _ (List.mem_singleton_self _)))
      books.paid_nonneg valuePos.le conserved within sum difference
    exact ⟨fitsNew, by simp [newValue, paidValue], newConserved, newBelow⟩

/-- A reversal keeps the books: the records are stamped, the paid amount stays as history and
the outstanding amount is written off. -/
theorem reverse {reason : String} {at_ : Instant} {previous : LedgerStatus}
    {result : ReversalResult} {audit : List ReversedPayment}
    (success : (b.reverse side reason at_).run f = .ok ((b', previous, result, audit), f')) :
    b'.Books total := by
  obtain ⟨open_, -, compensations, -, rfl, -, -, -⟩ := reverse_eq_ok success
  obtain ⟨active, -⟩ := books.standing (isStanding_of_open open_)
  refine
    { total_eq := books.total_eq
      currency_eq := books.currency_eq
      total_pos := books.total_pos
      paid_sum := by simpa [reversed, reversedRecords_amounts] using books.paid_sum
      paid_nonneg := books.paid_nonneg
      record_pos := ?_
      record_owner := ?_
      standing := by simp [reversed, LedgerStatus.isStanding]
      when_pending := nofun
      when_partial := nofun
      when_paid := nofun
      when_reversed := fun _ => ⟨rfl, ?_, rfl, rfl⟩
      when_cancelled := nofun
      exact := by simp [reversed, LedgerStatus.isStanding] }
  · intro r member
    obtain ⟨r₀, old, rfl⟩ := mem_reversedRecords member
    split <;> simpa using books.record_pos r₀ old
  · intro r member
    obtain ⟨r₀, old, rfl⟩ := mem_reversedRecords member
    split <;> simpa [reversed] using books.record_owner r₀ old
  · -- Every record was active before, so every record is stamped.
    intro r member
    obtain ⟨r₀, old, rfl⟩ := mem_reversedRecords member
    have : r₀.isActive = true := by simp [PaymentRecord.isActive, active r₀ old]
    simp [this]

/-- A cancellation keeps the books: only a pending balance with nothing paid is cancelled. -/
theorem cancel {reason : String} {at_ : Instant} (success : b.cancel side reason at_ = .ok b') :
    b'.Books total := by
  obtain ⟨open_, notPartial, -, -, rfl⟩ := cancel_eq_ok success
  have pending : b.status = .pending := by
    cases status : b.status <;> simp_all [LedgerStatus.isTerminal]
  obtain ⟨noRecords, nothingPaid, -⟩ := books.when_pending pending
  refine
    { total_eq := books.total_eq
      currency_eq := books.currency_eq
      total_pos := books.total_pos
      paid_sum := books.paid_sum
      paid_nonneg := books.paid_nonneg
      record_pos := books.record_pos
      record_owner := books.record_owner
      standing := by simp [LedgerStatus.isStanding]
      when_pending := nofun
      when_partial := nofun
      when_paid := nofun
      when_reversed := nofun
      when_cancelled := fun _ => ⟨noRecords, nothingPaid, rfl, rfl, rfl⟩
      exact := by simp [LedgerStatus.isStanding] }

theorem withDetails (dueDate : Option Instant) (remark : String) :
    { b with dueDate := dueDate, remark := remark }.Books total := by
  obtain ⟨a, c, p, s, n, r, o, st, pe, pa, pd, re, ca, ex⟩ := books
  exact ⟨a, c, p, s, n, r, o, st, pe, pa, pd, re, ca, ex⟩

theorem setDueDate {dueDate : Option Instant} (success : b.setDueDate side dueDate = .ok b') :
    b'.Books total := by
  obtain ⟨-, rfl⟩ := setDueDate_eq_ok.mp success
  exact books.withDetails dueDate b.remark

theorem step (step : Step side b b') : b'.Books total := by
  cases step with
  | applyPayment success => exact books.applyPayment success
  | reverse success => exact books.reverse success
  | cancel success => exact books.cancel success
  | setDueDate success => exact books.setDueDate success
  | setRemark => exact books.withDetails b.dueDate _

end Books

/-- Adding up records one unchecked sum at a time gives their checked sum whenever that one
fits. -/
theorem foldlM_plus {records : List PaymentRecord} {start sum : Decimal} (f : Fresh)
    (fits : (records.map PaymentRecord.amount).foldlM Decimal.add? start = some sum) :
    (records.foldlM (fun acc r => Cmd.plus acc r.amount) start).run f = .ok (sum, f) := by
  induction records generalizing start with
  | nil =>
    simp only [List.map_nil, List.foldlM_nil, Option.pure_def, Option.some.injEq] at fits
    simp [fits]
  | cons r rest ih =>
    simp only [List.map_cons, List.foldlM_cons] at fits
    cases next : Decimal.add? start r.amount with
    | none => simp [next] at fits
    | some partial_ =>
      simp only [next, Option.bind_eq_bind, Option.bind_some] at fits
      simp [Cmd.run_plus next, ih fits]

theorem Books.activeTotal_eq {total : Money} {b : Balance} (books : b.Books total)
    (standing : b.status.isStanding = true) : b.activeTotal = .ok b.paid := by
  obtain ⟨active, -⟩ := books.standing standing
  have everyRecord : b.records.filter PaymentRecord.isActive = b.records :=
    List.filter_eq_self.mpr fun r member => by simp [PaymentRecord.isActive, active r member]
  unfold activeTotal
  rw [everyRecord, StateT.run'_eq, foldlM_plus _ books.paid_sum]
  rfl

/-- When the total fits at the scale of every payment, the standing amounts are where the exact
law puts them, and a partial entry owes more than nothing and less than the total. -/
theorem Books.bounds {total : Money} {b : Balance} (books : b.Books total)
    (fits : ∀ r ∈ b.records, b.total.FitsAt r.amount.scale)
    (standing : b.status.isStanding = true) :
    b.paid.value + b.outstanding.value = b.total.value ∧
      0 ≤ b.paid.value ∧ b.paid.value ≤ b.total.value ∧
      0 ≤ b.outstanding.value ∧ b.outstanding.value ≤ b.total.value ∧
      (b.status = .partlyPaid → 0 < b.outstanding.value ∧ b.outstanding.value < b.total.value) := by
  obtain ⟨-, sum, conserved, below⟩ := books.exact fits standing
  have paidNonneg := books.paid_nonneg
  refine ⟨conserved, paidNonneg, below, by linarith, by linarith, fun partial_ => ?_⟩
  obtain ⟨recorded, owing⟩ := books.when_partial partial_
  -- Some record was paid, and every record pays a positive amount.
  have paidPos : 0 < b.paid.value := by
    rw [sum]
    exact List.sum_pos _ (by simpa using books.record_pos) (by simpa using recorded)
  exact ⟨lt_of_le_of_ne (by linarith) (Ne.symm owing), by linarith⟩

end Balance

namespace Entry

/-- Along every run from an entry the factory opened, the balance keeps its books for the
opening total and stays the balance of that entry. -/
theorem books_of_reachableFrom {d : EntryDraft} {e : Entry} (reach : e.ReachableFrom d) :
    e.balance.Books d.total ∧ e.balance.owner = e.id := by
  obtain ⟨e₀, ⟨side, f, env, f', opened⟩, run⟩ := reach
  obtain ⟨positive, -, balance, -⟩ := create_eq_ok opened
  induction run with
  | refl =>
    rw [balance]
    exact ⟨Balance.books_opened positive, rfl⟩
  | tail _ step ih =>
    obtain ⟨op, f₁, f₂, success⟩ := step
    obtain ⟨b', at_, moved, rfl⟩ := exec_eq_ok success
    exact ⟨ih.1.step moved, by simp [moved.owner_eq, ih.2]⟩

/-- The books of a receivable or payable along every run from its opening: the total and the
currency stay, the paid amount is the checked running sum of all records, every record pays a
positive amount into this entry, each state keeps its amounts as `Books` says, and the active
records add up to the paid amount while payments stand. When the total also fits at the scale
of every payment, `paid + outstanding = total` holds exactly, both amounts lie between zero and
the total, and a partial entry owes more than nothing and less than the total. -/
theorem conservation_of_reachable {d : EntryDraft} {e : Entry} (reach : e.ReachableFrom d) :
    e.balance.Books d.total ∧ (∀ r ∈ e.balance.records, r.owner = e.id) ∧
      (e.balance.status.isStanding = true → e.balance.activeTotal = .ok e.balance.paid) ∧
      ((∀ r ∈ e.balance.records, d.total.amount.FitsAt r.amount.scale) →
        e.balance.status.isStanding = true →
        e.balance.paid.value + e.balance.outstanding.value = d.total.amount.value ∧
        0 ≤ e.balance.paid.value ∧ e.balance.paid.value ≤ d.total.amount.value ∧
        0 ≤ e.balance.outstanding.value ∧ e.balance.outstanding.value ≤ d.total.amount.value ∧
        (e.balance.status = .partlyPaid →
          0 < e.balance.outstanding.value ∧
            e.balance.outstanding.value < d.total.amount.value)) := by
  obtain ⟨books, owner⟩ := books_of_reachableFrom reach
  refine ⟨books, fun r member => (books.record_owner r member).trans owner, books.activeTotal_eq,
    fun fits standing => ?_⟩
  rw [← books.total_eq] at fits ⊢
  exact books.bounds fits standing

/-- A receivable for `10000000000000000000000000001` yuan: written with one place, its total no
longer fits the mantissa. -/
def wideDraft : EntryDraft where
  tenant := Uuid.generated 100
  number := "AR-1"
  party := Uuid.generated 101
  partyName := "Acme"
  sourceType := .order
  source := Uuid.generated 102
  sourceNumber := "SO-1"
  total := ⟨Decimal.wide, .cny⟩
  dueDate := none
  occurredAt := ⟨19723, 0, 0⟩

/-- The receivable the factory opens for `wideDraft` with the first fresh identifier. -/
def wideOpened : Entry :=
  ⟨.sales, Uuid.generated 0, wideDraft.tenant, wideDraft.number, wideDraft.party,
    wideDraft.partyName, wideDraft.sourceType, wideDraft.source, wideDraft.sourceNumber,
    Balance.opened (Uuid.generated 0) wideDraft.total wideDraft.dueDate, 1, wideDraft.occurredAt,
    wideDraft.occurredAt⟩

/-- A receivable for a hundred yuan, between the parties of `wideDraft`. -/
def hundredDraft : EntryDraft := { wideDraft with total := ⟨Decimal.hundred, .cny⟩ }

/-- The receivable for `hundredDraft` once twelve and a half yuan is paid on it twice, through
two vouchers on two days. -/
def twicePaid : Entry :=
  ⟨.sales, Uuid.generated 0, hundredDraft.tenant, hundredDraft.number, hundredDraft.party,
    hundredDraft.partyName, hundredDraft.sourceType, hundredDraft.source,
    hundredDraft.sourceNumber,
    ⟨Uuid.generated 0, .cny, Decimal.hundred, Decimal.twentyFive, Decimal.seventyFive,
      .partlyPaid, none,
      [PaymentRecord.new (Uuid.generated 2) (Uuid.generated 0) (Uuid.generated 103)
          Decimal.twelveFifty "" ⟨19724, 0, 0⟩,
        PaymentRecord.new (Uuid.generated 4) (Uuid.generated 0) (Uuid.generated 104)
          Decimal.twelveFifty "" ⟨19725, 0, 0⟩],
      "", none, none, none, none, none⟩,
    3, hundredDraft.occurredAt, ⟨19725, 0, 0⟩⟩

theorem twicePaid_reachableFrom : twicePaid.ReachableFrom hundredDraft :=
  ⟨_, ⟨.sales, Fresh.avoiding [], _, _, rfl⟩,
    (Relation.ReflTransGen.single
      ⟨.applyPayment ⟨Decimal.twelveFifty, .cny⟩ (Uuid.generated 103) "" ⟨19724, 0, 0⟩,
        ⟨2, []⟩, _, rfl⟩).tail
      ⟨.applyPayment ⟨Decimal.twelveFifty, .cny⟩ (Uuid.generated 104) "" ⟨19725, 0, 0⟩,
        ⟨4, []⟩, _, rfl⟩⟩

theorem twicePaid_reachable : twicePaid.Reachable := ⟨hundredDraft, twicePaid_reachableFrom⟩

/-- After two payments on a hundred yuan, a whole total fits at the two places of each payment,
so the books of `twicePaid` balance exactly: twenty-five paid and seventy-five owed, both within
the total, and the partial entry owes something. -/
theorem conservation_after_payments :
    twicePaid.ReachableFrom hundredDraft ∧ twicePaid.balance.Books hundredDraft.total ∧
      (∀ r ∈ twicePaid.balance.records, r.owner = twicePaid.id) ∧
      twicePaid.balance.activeTotal = .ok twicePaid.balance.paid ∧
      twicePaid.balance.paid.value + twicePaid.balance.outstanding.value =
        hundredDraft.total.amount.value ∧
      0 ≤ twicePaid.balance.paid.value ∧
      twicePaid.balance.paid.value ≤ hundredDraft.total.amount.value ∧
      0 ≤ twicePaid.balance.outstanding.value ∧
      twicePaid.balance.outstanding.value ≤ hundredDraft.total.amount.value ∧
      0 < twicePaid.balance.outstanding.value ∧
      twicePaid.balance.outstanding.value < hundredDraft.total.amount.value := by
  have fits : ∀ r ∈ twicePaid.balance.records, hundredDraft.total.amount.FitsAt r.amount.scale := by
    simp only [twicePaid, List.mem_cons, List.not_mem_nil, or_false, forall_eq_or_imp, forall_eq]
    exact ⟨Decimal.hundred_fitsAt_two, Decimal.hundred_fitsAt_two⟩
  obtain ⟨books, owner, active, exact⟩ := conservation_of_reachable twicePaid_reachableFrom
  obtain ⟨conserved, paidLow, paidHigh, owedLow, owedHigh, owes⟩ := exact fits rfl
  exact ⟨twicePaid_reachableFrom, books, owner, active rfl, conserved, paidLow, paidHigh, owedLow,
    owedHigh, owes rfl⟩

/-- Half a yuan, with one place. -/
def halfYuan : Money := ⟨Decimal.half, .cny⟩

/-- Paying half a yuan on `wideDraft` rounds the outstanding amount up to `10 ^ 28`. -/
theorem half_payment_rounds :
    ∃ e : Entry, e.ReachableFrom wideDraft ∧ e.balance.status = .partlyPaid ∧
      e.balance.paid = halfYuan.amount ∧
      e.balance.outstanding = Decimal.octillion :=
  ⟨_, ⟨_, ⟨.sales, Fresh.avoiding [], _, _, rfl⟩,
    .single ⟨.applyPayment halfYuan (Uuid.generated 103) "" ⟨19724, 0, 0⟩, ⟨2, []⟩, _, rfl⟩⟩,
    rfl, rfl, rfl⟩

/-- A payment with more places than the total fits at breaks the exact law: after half a yuan
on `wideDraft` the entry is partial and its paid and outstanding amounts add up to half a yuan
less than the total. -/
theorem paid_plus_outstanding_ne_total :
    ∃ e : Entry, e.ReachableFrom wideDraft ∧ e.balance.status = .partlyPaid ∧
      e.balance.paid.value + e.balance.outstanding.value ≠ wideDraft.total.amount.value := by
  obtain ⟨e, reach, partial_, paid, outstanding⟩ := half_payment_rounds
  refine ⟨e, reach, partial_, ?_⟩
  rw [paid, outstanding]
  norm_num [Decimal.value, Decimal.signed, halfYuan, wideDraft, Decimal.half, Decimal.wide,
    Decimal.octillion]

end Entry

end Subledger
