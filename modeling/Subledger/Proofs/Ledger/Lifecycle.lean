import Subledger.Proofs.Ledger.Conservation

/-! # The ledger state machine

A receivable or payable moves from pending to partial or paid as payments arrive, from pending
or partial to reversed, and from pending to cancelled; paid, reversed and cancelled are final.
A final entry refuses every command but a new remark, so a run from it changes nothing but the
remark, the version and the time of the last change. Main statement:
`Entry.lifecycle_of_reachable`.
-/

namespace Subledger

/-- The moves of the ledger state machine: every command leaves the status as it is or takes
one of these edges. -/
inductive LedgerStatus.Move : LedgerStatus → LedgerStatus → Prop
  | pay : Move .pending .partlyPaid
  | settle : Move .pending .paid
  | payMore : Move .partlyPaid .partlyPaid
  | settleRest : Move .partlyPaid .paid
  | reversePending : Move .pending .reversed
  | reversePartial : Move .partlyPaid .reversed
  | cancel : Move .pending .cancelled

namespace LedgerStatus

variable {s : LedgerStatus}

theorem eq_pending_or_partlyPaid (open_ : s.isTerminal = false) : s = .pending ∨ s = .partlyPaid := by
  cases s <;> simp_all [isTerminal]

section Open

variable (open_ : s.isTerminal = false)
include open_

theorem move_payment (settled : Bool) : s.Move (if settled then .paid else .partlyPaid) := by
  rcases eq_pending_or_partlyPaid open_ with rfl | rfl <;> cases settled
  · exact .pay
  · exact .settle
  · exact .payMore
  · exact .settleRest

theorem move_reversed : s.Move .reversed := by
  rcases eq_pending_or_partlyPaid open_ with rfl | rfl
  · exact .reversePending
  · exact .reversePartial

end Open

end LedgerStatus

namespace Balance

variable {side : Side} {b b' : Balance} {total : Money}

theorem Step.status_moves (step : Step side b b') :
    b'.status = b.status ∨ b.status.Move b'.status := by
  cases step with
  | applyPayment success =>
    obtain ⟨open_, -, -, -, -, paid, outstanding, -, -, -, -, rfl⟩ := applyPayment_eq_ok success
    exact .inr (LedgerStatus.move_payment open_ outstanding.isZero)
  | reverse success =>
    obtain ⟨open_, -, -, -, rfl, -⟩ := reverse_eq_ok success
    exact .inr (LedgerStatus.move_reversed open_)
  | cancel success =>
    obtain ⟨open_, notPartial, -, -, rfl⟩ := cancel_eq_ok success
    -- open and not partial leaves pending, the one status a cancellation leaves
    have pending : b.status = .pending :=
      (LedgerStatus.eq_pending_or_partlyPaid open_).resolve_right notPartial
    exact .inr (pending ▸ .cancel)
  | setDueDate success =>
    obtain ⟨-, rfl⟩ := setDueDate_eq_ok.mp success
    exact .inl rfl
  | setRemark => exact .inl rfl

theorem Step.eq_of_isTerminal (terminal : b.status.isTerminal = true) (step : Step side b b') :
    b' = { b with remark := b'.remark } := by
  cases step with
  | applyPayment success => simp [applyPayment_of_isTerminal terminal] at success
  | reverse success => simp [reverse_of_isTerminal terminal] at success
  | cancel success => simp [cancel_of_isTerminal terminal] at success
  | setDueDate success => simp [setDueDate_of_isTerminal terminal] at success
  | setRemark => rfl

/-- Before a reversal every record is active: a standing balance keeps its records active and a
cancelled one has none. -/
theorem Books.records_active (books : b.Books total) (notReversed : b.status ≠ .reversed) :
    ∀ r ∈ b.records, r.status = .active := by
  intro r member
  cases standing : b.status.isStanding
  · have cancelled : b.status = .cancelled := by
      cases status : b.status <;> simp_all [LedgerStatus.isStanding]
    simp [(books.when_cancelled cancelled).1] at member
  · exact (books.standing standing).1 r member

end Balance

namespace Entry

variable {e e' : Entry} {f f' : Fresh}

/-! ## Final entries -/

section Closed

variable (terminal : e.balance.status.isTerminal = true)
include terminal

theorem applyPayment_of_isTerminal {amount : Money} {voucher : Uuid} {remark : String}
    {at_ : Instant} :
    (e.applyPayment amount voucher remark at_).run f = .error (.refused (.invalidState
      s!"Cannot apply payment to {e.side.entryNoun} in {e.balance.status.tag} status")) := by
  unfold applyPayment
  simp [Balance.applyPayment_of_isTerminal terminal]

theorem reverse_of_isTerminal {reason : String} {at_ : Instant} :
    (e.reverse reason at_).run f = .error (.refused (.invalidState
      s!"Cannot reverse {e.side.entryNoun} in {e.balance.status.tag} status")) := by
  unfold reverse
  simp [Balance.reverse_of_isTerminal terminal]

theorem cancel_of_isTerminal {reason : String} {at_ : Instant} :
    (e.cancel reason at_).run f = .error (.refused (.invalidState
      s!"Cannot cancel {e.side.entryNoun} in {e.balance.status.tag} status")) := by
  unfold cancel
  simp [Balance.cancel_of_isTerminal terminal]

theorem setDueDate_of_isTerminal {dueDate : Option Instant} {at_ : Instant} :
    e.setDueDate dueDate at_ = .error (.invalidState
      s!"Cannot modify due date for {e.side.entryNoun} in terminal state") := by
  simp [setDueDate, Balance.setDueDate_of_isTerminal terminal]

theorem Step.frozen (step : e.Step e') :
    e' = { e with
      balance := { e.balance with remark := e'.balance.remark }
      version := e'.version, updatedAt := e'.updatedAt } := by
  obtain ⟨op, f, f', success⟩ := step
  obtain ⟨b', at_, moved, rfl⟩ := exec_eq_ok success
  obtain ⟨remark, rfl⟩ : ∃ remark, b' = { e.balance with remark := remark } :=
    ⟨_, moved.eq_of_isTerminal terminal⟩
  rfl

theorem frozen_of_isTerminal (run : Relation.ReflTransGen Step e e') :
    e' = { e with
      balance := { e.balance with remark := e'.balance.remark }
      version := e'.version, updatedAt := e'.updatedAt } := by
  induction run with
  | refl => rfl
  | @tail e₁ e₂ _ step ih =>
    -- the entry reached so far has the status of `e`, so it is final too
    have terminal₁ : e₁.balance.status.isTerminal = true := by rw [ih]; exact terminal
    calc e₂ = { e₁ with
          balance := { e₁.balance with remark := e₂.balance.remark }
          version := e₂.version, updatedAt := e₂.updatedAt } := Step.frozen terminal₁ step
      _ = _ := by rw [ih]

end Closed

/-! ## Cancellations and payments -/

variable {reason remark : String} {at_ : Instant} {amount : Money} {voucher : Uuid}
  {env : Envelope EntryEvent} {total : Money}

theorem cancel_only_pending (books : e.balance.Books total)
    (success : (e.cancel reason at_).run f = .ok ((e', env), f')) :
    e.balance.status = .pending ∧ e.balance.paid.value = 0 := by
  obtain ⟨b', cancelled, -, -⟩ := cancel_eq_ok success
  obtain ⟨open_, notPartial, -, -, -⟩ := Balance.cancel_eq_ok cancelled
  have pending : e.balance.status = .pending :=
    (LedgerStatus.eq_pending_or_partlyPaid open_).resolve_right notPartial
  exact ⟨pending, by simp [(books.when_pending pending).2.1]⟩

/-- A payment announces the entry paid exactly when it leaves it paid, and partial otherwise,
with the new entry in the event. -/
theorem applyPayment_event
    (success : (e.applyPayment amount voucher remark at_).run f = .ok ((e', env), f')) :
    ∃ record : Uuid, env.payload = if e'.balance.status = .paid then .paid e' record voucher amount
      else .partlyPaid e' record voucher amount := by
  obtain ⟨b', record, settled, f₁, paid, rfl, payload⟩ := applyPayment_eq_ok success
  obtain ⟨-, -, -, -, -, p, outstanding, -, -, rfl, -, rfl⟩ := Balance.applyPayment_eq_ok paid
  refine ⟨record.id, ?_⟩
  rw [payload]
  cases outstanding.isZero <;> rfl

/-- What the ledger state machine promises of an entry: how its next command may move the
status, what a final entry refuses and keeps, the state of its records, and what a
cancellation and a payment require and announce. -/
structure Lifecycle (e : Entry) : Prop where
  moves : ∀ e', e.Step e' →
    e'.balance.status = e.balance.status ∨ e.balance.status.Move e'.balance.status
  /-- A final entry refuses a payment, a reversal, a cancellation and a new due date as being
  in the wrong state. -/
  refusesWhenClosed : e.balance.status.isTerminal = true →
    (∀ amount voucher remark at_ f, ∃ message,
      (e.applyPayment amount voucher remark at_).run f = .error (.refused (.invalidState message))) ∧
    (∀ reason at_ f, ∃ message,
      (e.reverse reason at_).run f = .error (.refused (.invalidState message))) ∧
    (∀ reason at_ f, ∃ message,
      (e.cancel reason at_).run f = .error (.refused (.invalidState message))) ∧
    (∀ dueDate at_, ∃ message, e.setDueDate dueDate at_ = .error (.invalidState message))
  /-- From a final entry on, only the remark, the version and the time of the last change
  move. -/
  frozenWhenClosed : e.balance.status.isTerminal = true → ∀ e', Relation.ReflTransGen Step e e' →
    e' = { e with
      balance := { e.balance with remark := e'.balance.remark }
      version := e'.version, updatedAt := e'.updatedAt }
  active : e.balance.status ≠ .reversed → ∀ r ∈ e.balance.records, r.status = .active
  reversed : e.balance.status = .reversed → ∀ r ∈ e.balance.records, r.status = .reversed
  cancel : ∀ reason at_ f e' env f', (e.cancel reason at_).run f = .ok ((e', env), f') →
    e.balance.status = .pending ∧ e.balance.paid.value = 0
  payment : ∀ amount voucher remark at_ f e' env f',
    (e.applyPayment amount voucher remark at_).run f = .ok ((e', env), f') →
    ∃ record : Uuid, env.payload = if e'.balance.status = .paid then .paid e' record voucher amount
      else .partlyPaid e' record voucher amount

/-- Every entry a run reaches from the factory follows the ledger state machine. -/
theorem lifecycle_of_reachable (reach : e.Reachable) : e.Lifecycle := by
  obtain ⟨d, reach⟩ := reach
  obtain ⟨books, -⟩ := books_of_reachableFrom reach
  exact
    { moves := fun e' ⟨op, f, f', success⟩ => by
        obtain ⟨b', at_, moved, rfl⟩ := exec_eq_ok success
        exact moved.status_moves
      refusesWhenClosed := fun terminal =>
        ⟨fun _ _ _ _ _ => ⟨_, applyPayment_of_isTerminal terminal⟩,
          fun _ _ _ => ⟨_, reverse_of_isTerminal terminal⟩,
          fun _ _ _ => ⟨_, cancel_of_isTerminal terminal⟩,
          fun _ _ => ⟨_, setDueDate_of_isTerminal terminal⟩⟩
      frozenWhenClosed := fun terminal _ run => frozen_of_isTerminal terminal run
      active := books.records_active
      reversed := fun reversed => (books.when_reversed reversed).2.1
      cancel := fun _ _ _ _ _ _ success => cancel_only_pending books success
      payment := fun _ _ _ _ _ _ _ _ success => applyPayment_event success }

/-- `twicePaid` once both payments are reversed on the fourth day. -/
def twicePaidReversed : Entry :=
  { twicePaid with
    balance := { twicePaid.balance with
      outstanding := Decimal.zero, status := .reversed
      records := twicePaid.balance.records.map (·.stamp "refund" ⟨19726, 0, 0⟩)
      reversedAt := some ⟨19726, 0, 0⟩, reversalReason := some "refund" }
    version := 4, updatedAt := ⟨19726, 0, 0⟩ }

theorem twicePaidReversed_reachable : twicePaidReversed.Reachable := by
  obtain ⟨e₀, opened, run⟩ := twicePaid_reachableFrom
  exact ⟨hundredDraft, e₀, opened, run.tail ⟨.reverse "refund" ⟨19726, 0, 0⟩, ⟨6, []⟩, _, rfl⟩⟩

/-- A receivable paid twice and then reversed follows the state machine on both sides of the
reversal: while partial its records are active; once reversed every record is reversed, a new
payment is refused as being in the wrong state, and no later run moves its status or records. -/
theorem lifecycle_after_reversal :
    twicePaid.Reachable ∧ twicePaid.Lifecycle ∧
      (∀ r ∈ twicePaid.balance.records, r.status = .active) ∧
      twicePaidReversed.Reachable ∧ twicePaidReversed.Lifecycle ∧
      (∀ r ∈ twicePaidReversed.balance.records, r.status = .reversed) ∧
      (∀ amount voucher remark at_ f, ∃ message,
        (twicePaidReversed.applyPayment amount voucher remark at_).run f =
          .error (.refused (.invalidState message))) ∧
      (∀ e', Relation.ReflTransGen Step twicePaidReversed e' →
        e'.balance.status = .reversed ∧
          e'.balance.records = twicePaidReversed.balance.records) := by
  have partial_ := lifecycle_of_reachable twicePaid_reachable
  have reversed := lifecycle_of_reachable twicePaidReversed_reachable
  have terminal : twicePaidReversed.balance.status.isTerminal = true := rfl
  refine ⟨twicePaid_reachable, partial_, partial_.active (by decide), twicePaidReversed_reachable,
    reversed, reversed.reversed rfl, (reversed.refusesWhenClosed terminal).1,
    fun e' run => ?_⟩
  rw [reversed.frozenWhenClosed terminal e' run]
  exact ⟨rfl, rfl⟩

end Entry

end Subledger
