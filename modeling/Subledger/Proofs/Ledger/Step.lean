import Mathlib.Logic.Relation
import Subledger.Ledger.Entry
import Subledger.Proofs.Command

/-! # Commands on receivables and payables

The five commands a ledger entry takes once it is open, and what each does when it goes
through: one lemma per command on the balance, guards included, so that every invariant is a
case split on the command that never unfolds it again. A run is a sequence of successful
commands from an entry the factory opened; a refused command leaves the entry as it was, so it
adds no state to a run.
-/

namespace Subledger

@[simp] theorem LedgerStatus.beq_eq (s t : LedgerStatus) : (s == t) = decide (s = t) := by
  cases s <;> cases t <;> rfl

@[simp] theorem RecordStatus.beq_eq (s t : RecordStatus) : (s == t) = decide (s = t) := by
  cases s <;> cases t <;> rfl

@[simp] theorem LedgerStatus.canApplyPayment_eq (s : LedgerStatus) :
    s.canApplyPayment = !s.isTerminal := by
  cases s <;> rfl

@[simp] theorem Currency.beq_eq (c d : Currency) : (c == d) = decide (c = d) := by
  cases c <;> cases d <;> rfl

@[simp] theorem Uuid.beq_iff_eq {a b : Uuid} : (a == b) = true ↔ a = b := by
  obtain ⟨a, ha⟩ := a
  obtain ⟨b, hb⟩ := b
  show (a == b) = true ↔ _
  simp

@[simp] theorem Uuid.beq_eq_false_iff_ne {a b : Uuid} : (a == b) = false ↔ a ≠ b := by
  rw [ne_eq, ← Uuid.beq_iff_eq, Bool.not_eq_true]

namespace Validate

theorem positiveAmount_eq_ok {amount : Money} {currency : Currency} {what : String}
    {value : Decimal} :
    positiveAmount amount currency what = .ok value ↔
      amount.currency = currency ∧ amount.isPositive = true ∧ value = amount.amount := by
  unfold positiveAmount
  by_cases same : amount.currency = currency <;> by_cases positive : amount.isPositive = true <;>
    simp only [same, positive, Currency.beq_eq, bne, decide_true, decide_false, Bool.not_true,
      Bool.not_false, Bool.false_eq_true, ↓reduceIte, reduceCtorEq, Except.ok.injEq, true_and,
      false_and, and_false, and_self, eq_comm]

theorem present_eq_ok {code : ErrorCode} {message : String} {id : Uuid} {u : Unit} :
    present code message id = .ok u ↔ id.isNil = false := by
  unfold present
  cases id.isNil <;> simp

theorem nonEmpty_eq_ok {code : ErrorCode} {message value : String} {u : Unit} :
    nonEmpty code message value = .ok u ↔ value.isEmpty = false := by
  unfold nonEmpty
  cases value.isEmpty <;> simp

end Validate

namespace Balance

variable {side : Side} {b b' : Balance} {f f' : Fresh}

/-- A payment that goes through: the guards it passed and the balance it leaves. -/
theorem applyPayment_eq_ok {amount : Money} {voucher : Uuid} {remark : String} {at_ : Instant}
    {record : PaymentRecord} {settled : Bool}
    (success : (b.applyPayment side amount voucher remark at_).run f =
      .ok ((b', record, settled), f')) :
    b.status.isTerminal = false ∧ amount.currency = b.currency ∧
      amount.isPositive = true ∧ b.outstanding.lt amount.amount = false ∧ voucher.isNil = false ∧
      ∃ paid outstanding, Decimal.add? b.paid amount.amount = some paid ∧
        Decimal.sub? b.total paid = some outstanding ∧ settled = outstanding.isZero ∧
        record = PaymentRecord.new f.peek b.owner voucher amount.amount remark at_ ∧
        b' = { b with
          records := b.records ++ [record], paid := paid, outstanding := outstanding
          status := if outstanding.isZero then .paid else .partlyPaid
          paidAt := if outstanding.isZero then some at_ else b.paidAt } := by
  cases open_ : b.status.isTerminal
  case true => simp [applyPayment, open_] at success
  cases valid : Validate.positiveAmount amount b.currency "Payment amount" with
  | error e => simp [applyPayment, open_, valid] at success
  | ok value =>
    obtain ⟨currency, positive, rfl⟩ := Validate.positiveAmount_eq_ok.mp valid
    cases within : b.outstanding.lt amount.amount
    · cases nil : voucher.isNil
      · cases sum : b.paid.add? amount.amount with
        | none => simp [applyPayment, open_, valid, within, nil, sum, Validate.present] at success
        | some paid =>
          cases difference : b.total.sub? paid with
          | none =>
            simp [applyPayment, open_, valid, within, nil, sum, Validate.present,
              Cmd.run_minus_overflow difference] at success
          | some outstanding =>
            simp [applyPayment, open_, valid, within, nil, sum, Validate.present,
              Cmd.run_minus difference] at success
            obtain ⟨⟨rfl, rfl, rfl⟩, rfl⟩ := success
            exact ⟨rfl, currency, positive, rfl, rfl, paid, outstanding, rfl, difference, rfl, rfl, rfl⟩
      · simp [applyPayment, open_, valid, within, nil, Validate.present] at success
    · simp [applyPayment, open_, valid, within] at success

/-- The records after a reversal: the active ones stamped with the reason and time, the
others as they were. -/
def reversedRecords (reason : String) (at_ : Instant) (records : List PaymentRecord) :
    List PaymentRecord :=
  records.map fun r => if r.isActive then r.stamp reason at_ else r

/-- The audit lines of a reversal: one per active record, in record order, each with the
compensation identifier drawn for it. -/
def auditLines (at_ : Instant) (records : List PaymentRecord) (compensations : List Uuid) :
    List ReversedPayment :=
  List.zipWith (fun r c => ⟨r.id, r.voucher, r.amount, r.appliedAt, at_, c⟩)
    (records.filter PaymentRecord.isActive) compensations

/-- Reversing a list of records always succeeds: it stamps exactly the active records and
draws one compensation identifier for each of them. -/
theorem reverseRecords_run (reason : String) (at_ : Instant) (records : List PaymentRecord)
    (f : Fresh) :
    ∃ compensations f', compensations.length = (records.filter PaymentRecord.isActive).length ∧
      (reverseRecords reason at_ records).run f =
        .ok ((reversedRecords reason at_ records, auditLines at_ records compensations), f') := by
  induction records generalizing f with
  | nil => exact ⟨[], f, rfl, rfl⟩
  | cons r rest ih =>
    by_cases active : r.isActive = true
    · obtain ⟨compensations, f', length, run⟩ := ih f.advance
      refine ⟨f.peek :: compensations, f', by simp [active, length], ?_⟩
      simp [reverseRecords, active, run, reversedRecords, auditLines]
    · obtain ⟨compensations, f', length, run⟩ := ih f
      refine ⟨compensations, f', by simp [active, length], ?_⟩
      simp [reverseRecords, active, run, reversedRecords, auditLines]

/-- The balance a reversal leaves. -/
def reversed (b : Balance) (reason : String) (at_ : Instant) : Balance :=
  { b with
    records := reversedRecords reason at_ b.records, status := .reversed, reversedAt := some at_
    reversalReason := some reason, outstanding := Decimal.zero }

/-- What a reversal reports for the given compensation identifiers. -/
def reversalResult (b : Balance) (reason : String) (at_ : Instant) (compensations : List Uuid) :
    ReversalResult :=
  ⟨b.paid.isPositive, b.paidMoney, b.outstandingMoney,
    (auditLines at_ b.records compensations).length,
    (auditLines at_ b.records compensations).map (·.compensation),
    reversedRecords reason at_ b.records⟩

theorem reverse_run (side : Side) (at_ : Instant) {reason : String}
    (open_ : b.status.isTerminal = false)
    (given : reason.isEmpty = false) (f : Fresh) :
    ∃ compensations f', compensations.length = (b.records.filter PaymentRecord.isActive).length ∧
      (b.reverse side reason at_).run f =
        .ok ((b.reversed reason at_, b.status, b.reversalResult reason at_ compensations,
          auditLines at_ b.records compensations), f') := by
  obtain ⟨compensations, f', length, run⟩ := reverseRecords_run reason at_ b.records f
  refine ⟨compensations, f', length, ?_⟩
  simp [reverse, open_, given, Validate.nonEmpty, run]
  exact ⟨rfl, rfl⟩

theorem reverse_eq_ok {reason : String} {at_ : Instant} {previous : LedgerStatus}
    {result : ReversalResult} {audit : List ReversedPayment}
    (success : (b.reverse side reason at_).run f = .ok ((b', previous, result, audit), f')) :
    b.status.isTerminal = false ∧ reason.isEmpty = false ∧
      ∃ compensations, compensations.length = (b.records.filter PaymentRecord.isActive).length ∧
        b' = b.reversed reason at_ ∧ previous = b.status ∧
        result = b.reversalResult reason at_ compensations ∧
        audit = auditLines at_ b.records compensations := by
  cases open_ : b.status.isTerminal
  · cases given : reason.isEmpty
    · obtain ⟨compensations, f₁, length, run⟩ := reverse_run side at_ open_ given f
      rw [run] at success
      simp only [Except.ok.injEq, Prod.mk.injEq] at success
      obtain ⟨⟨rfl, rfl, rfl, rfl⟩, -⟩ := success
      exact ⟨rfl, rfl, compensations, length, rfl, rfl, rfl, rfl⟩
    · simp [reverse, open_, given, Validate.nonEmpty] at success
  · simp [reverse, open_] at success

theorem cancel_eq_ok {reason : String} {at_ : Instant}
    (success : b.cancel side reason at_ = .ok b') :
    b.status.isTerminal = false ∧ b.status ≠ .partlyPaid ∧ b.paid.isPositive = false ∧
      reason.isEmpty = false ∧
      b' = { b with
        status := .cancelled, cancelledAt := some at_, cancelReason := some reason
        outstanding := Decimal.zero } := by
  unfold cancel at success
  cases open_ : b.status.isTerminal
  · cases payments : (b.status == .partlyPaid || b.paid.isPositive)
    · simp only [Bool.or_eq_false_iff, LedgerStatus.beq_eq, decide_eq_false_iff_not] at payments
      cases given : reason.isEmpty
      · simp [open_, payments, given, Validate.nonEmpty] at success
        exact ⟨rfl, payments.1, payments.2, rfl, success.symm⟩
      · simp [open_, payments, given, Validate.nonEmpty] at success
    · simp only [Bool.or_eq_true, LedgerStatus.beq_eq, decide_eq_true_eq] at payments
      simp [open_, payments] at success
  · simp [open_] at success

theorem setDueDate_eq_ok {dueDate : Option Instant} :
    b.setDueDate side dueDate = .ok b' ↔
      b.status.isTerminal = false ∧ b' = { b with dueDate := dueDate } := by
  unfold setDueDate
  cases b.status.isTerminal <;> simp [eq_comm]

/-! ## Closed balances -/

section Closed

variable (terminal : b.status.isTerminal = true)
include terminal

theorem applyPayment_of_isTerminal {amount : Money} {voucher : Uuid} {remark : String}
    {at_ : Instant} :
    (b.applyPayment side amount voucher remark at_).run f = .error (.refused (.invalidState
      s!"Cannot apply payment to {side.entryNoun} in {b.status.tag} status")) := by
  simp [applyPayment, terminal]

theorem reverse_of_isTerminal {reason : String} {at_ : Instant} :
    (b.reverse side reason at_).run f = .error (.refused (.invalidState
      s!"Cannot reverse {side.entryNoun} in {b.status.tag} status")) := by
  simp [reverse, terminal]

theorem cancel_of_isTerminal {reason : String} {at_ : Instant} :
    b.cancel side reason at_ = .error (.invalidState
      s!"Cannot cancel {side.entryNoun} in {b.status.tag} status") := by
  simp [cancel, terminal]

theorem setDueDate_of_isTerminal {dueDate : Option Instant} :
    b.setDueDate side dueDate = .error (.invalidState
      s!"Cannot modify due date for {side.entryNoun} in terminal state") := by
  simp [setDueDate, terminal]

end Closed

/-- One successful change of a balance, by any of the five commands. -/
inductive Step (side : Side) : Balance → Balance → Prop
  | applyPayment {b b' : Balance} {amount : Money} {voucher : Uuid} {remark : String}
      {at_ : Instant} {record : PaymentRecord} {settled : Bool} {f f' : Fresh} :
      (b.applyPayment side amount voucher remark at_).run f = .ok ((b', record, settled), f') →
      Step side b b'
  | reverse {b b' : Balance} {reason : String} {at_ : Instant} {previous : LedgerStatus}
      {result : ReversalResult} {audit : List ReversedPayment} {f f' : Fresh} :
      (b.reverse side reason at_).run f = .ok ((b', previous, result, audit), f') → Step side b b'
  | cancel {b b' : Balance} {reason : String} {at_ : Instant} :
      b.cancel side reason at_ = .ok b' → Step side b b'
  | setDueDate {b b' : Balance} {dueDate : Option Instant} :
      b.setDueDate side dueDate = .ok b' → Step side b b'
  | setRemark {b : Balance} {remark : String} : Step side b { b with remark := remark }

theorem Step.owner_eq (step : Step side b b') : b'.owner = b.owner := by
  cases step with
  | applyPayment success =>
    obtain ⟨-, -, -, -, -, -, -, -, -, -, -, rfl⟩ := applyPayment_eq_ok success
    rfl
  | reverse success =>
    obtain ⟨-, -, -, -, rfl, -⟩ := reverse_eq_ok success
    rfl
  | cancel success =>
    obtain ⟨-, -, -, -, rfl⟩ := cancel_eq_ok success
    rfl
  | setDueDate success =>
    obtain ⟨-, rfl⟩ := setDueDate_eq_ok.mp success
    rfl
  | setRemark => rfl

end Balance

/-- A command on a receivable or payable, with its arguments. -/
inductive EntryOp where
  | applyPayment (amount : Money) (voucher : Uuid) (remark : String) (at_ : Instant)
  | reverse (reason : String) (at_ : Instant)
  | cancel (reason : String) (at_ : Instant)
  | setDueDate (dueDate : Option Instant) (at_ : Instant)
  | setRemark (remark : String) (at_ : Instant)

namespace Entry

/-- Runs a command on an entry, keeping the entry it leaves. -/
def exec (e : Entry) : EntryOp → Cmd Entry
  | .applyPayment amount voucher remark at_ =>
    Prod.fst <$> e.applyPayment amount voucher remark at_
  | .reverse reason at_ => Prod.fst <$> e.reverse reason at_
  | .cancel reason at_ => Prod.fst <$> e.cancel reason at_
  | .setDueDate dueDate at_ => Cmd.check (e.setDueDate dueDate at_)
  | .setRemark remark at_ => pure (e.setRemark remark at_)

/-- An entry the factory opened for a draft. -/
def OpenedFrom (d : EntryDraft) (e : Entry) : Prop :=
  ∃ side f env f', (create side d).run f = .ok ((e, env), f')

/-- One successful command, with any arguments and any source of fresh identifiers. -/
def Step (e e' : Entry) : Prop := ∃ op f f', (e.exec op).run f = .ok (e', f')

/-- The entries a run of commands reaches from one the factory opened for the draft. -/
def ReachableFrom (d : EntryDraft) (e : Entry) : Prop :=
  ∃ e₀, e₀.OpenedFrom d ∧ Relation.ReflTransGen Step e₀ e

/-- The entries some run reaches from an entry the factory opened. -/
def Reachable (e : Entry) : Prop := ∃ d, e.ReachableFrom d

variable {e e' : Entry} {f f' : Fresh}

@[simp] theorem touch_balance (e : Entry) (at_ : Instant) : (e.touch at_).balance = e.balance := rfl

@[simp] theorem touch_side (e : Entry) (at_ : Instant) : (e.touch at_).side = e.side := rfl

@[simp] theorem touch_id (e : Entry) (at_ : Instant) : (e.touch at_).id = e.id := rfl

theorem create_eq_ok {side : Side} {d : EntryDraft} {env : Envelope EntryEvent}
    (success : (create side d).run f = .ok ((e, env), f')) :
    d.total.isPositive = true ∧ e.side = side ∧
      e.balance = Balance.opened e.id d.total d.dueDate ∧ e.version = 1 := by
  unfold create at success
  obtain ⟨-, -, success⟩ := Cmd.run_check_bind_eq_ok.mp success
  obtain ⟨-, -, success⟩ := Cmd.run_check_bind_eq_ok.mp success
  obtain ⟨-, -, success⟩ := Cmd.run_check_bind_eq_ok.mp success
  obtain ⟨-, -, success⟩ := Cmd.run_check_bind_eq_ok.mp success
  obtain ⟨-, -, success⟩ := Cmd.run_check_bind_eq_ok.mp success
  cases positive : d.total.isPositive
  · simp [positive] at success
  · simp [positive, announce] at success
    obtain ⟨⟨rfl, -⟩, -⟩ := success
    exact ⟨rfl, rfl, rfl, rfl⟩

theorem applyPayment_eq_ok {amount : Money} {voucher : Uuid} {remark : String} {at_ : Instant}
    {env : Envelope EntryEvent}
    (success : (e.applyPayment amount voucher remark at_).run f = .ok ((e', env), f')) :
    ∃ b' record settled f₁, (e.balance.applyPayment e.side amount voucher remark at_).run f =
        .ok ((b', record, settled), f₁) ∧
      e' = { e with balance := b' }.touch at_ ∧
      env.payload = if settled then .paid e' record.id voucher amount
        else .partlyPaid e' record.id voucher amount := by
  unfold applyPayment at success
  cases run : (e.balance.applyPayment e.side amount voucher remark at_).run f with
  | error failure => simp [run] at success
  | ok result =>
    obtain ⟨⟨b', record, settled⟩, f₁⟩ := result
    simp [run, announce] at success
    obtain ⟨⟨rfl, rfl⟩, -⟩ := success
    exact ⟨b', record, settled, f₁, rfl, rfl, rfl⟩

theorem reverse_eq_ok {reason : String} {at_ : Instant} {result : ReversalResult}
    {env : Envelope EntryEvent}
    (success : (e.reverse reason at_).run f = .ok ((e', result, env), f')) :
    ∃ b' previous audit f₁, (e.balance.reverse e.side reason at_).run f =
        .ok ((b', previous, result, audit), f₁) ∧
      e' = { e with balance := b' }.touch at_ ∧
      env.payload = .reversed e' previous result reason audit at_ := by
  unfold reverse at success
  cases run : (e.balance.reverse e.side reason at_).run f with
  | error failure => simp [run] at success
  | ok outcome =>
    obtain ⟨⟨b', previous, result', audit⟩, f₁⟩ := outcome
    simp [run, announce] at success
    obtain ⟨⟨rfl, rfl, rfl⟩, -⟩ := success
    exact ⟨b', previous, audit, f₁, rfl, rfl, rfl⟩

theorem cancel_eq_ok {reason : String} {at_ : Instant} {env : Envelope EntryEvent}
    (success : (e.cancel reason at_).run f = .ok ((e', env), f')) :
    ∃ b', e.balance.cancel e.side reason at_ = .ok b' ∧
      e' = { e with balance := b' }.touch at_ ∧ env.payload = .cancelled e' reason at_ := by
  unfold cancel at success
  obtain ⟨b', cancelled, success⟩ := Cmd.run_check_bind_eq_ok.mp success
  simp [announce] at success
  obtain ⟨⟨rfl, rfl⟩, -⟩ := success
  exact ⟨b', cancelled, rfl, rfl⟩

theorem setDueDate_eq_ok {dueDate : Option Instant} {at_ : Instant}
    (success : e.setDueDate dueDate at_ = .ok e') :
    ∃ b', e.balance.setDueDate e.side dueDate = .ok b' ∧ e' = { e with balance := b' }.touch at_ := by
  unfold setDueDate at success
  cases changed : e.balance.setDueDate e.side dueDate with
  | error refusal => simp [changed] at success
  | ok b' =>
    simp [changed] at success
    exact ⟨b', rfl, success.symm⟩

/-- What a successful command does to an entry: one step of its balance, a new version and
the time of the change. -/
theorem exec_eq_ok {op : EntryOp} (success : (e.exec op).run f = .ok (e', f')) :
    ∃ b' at_, Balance.Step e.side e.balance b' ∧ e' = { e with balance := b' }.touch at_ := by
  cases op with
  | applyPayment amount voucher remark at_ =>
    obtain ⟨⟨e'', env⟩, run, rfl⟩ := Cmd.run_map_eq_ok.mp success
    obtain ⟨b', record, settled, f₁, paid, rfl, -⟩ := applyPayment_eq_ok run
    exact ⟨b', at_, .applyPayment paid, rfl⟩
  | reverse reason at_ =>
    obtain ⟨⟨e'', result, env⟩, run, rfl⟩ := Cmd.run_map_eq_ok.mp success
    obtain ⟨b', previous, audit, f₁, reversed, rfl, -⟩ := reverse_eq_ok run
    exact ⟨b', at_, .reverse reversed, rfl⟩
  | cancel reason at_ =>
    obtain ⟨⟨e'', env⟩, run, rfl⟩ := Cmd.run_map_eq_ok.mp success
    obtain ⟨b', cancelled, rfl, -⟩ := cancel_eq_ok run
    exact ⟨b', at_, .cancel cancelled, rfl⟩
  | setDueDate dueDate at_ =>
    cases changed : e.setDueDate dueDate at_ with
    | error refusal => simp [exec, changed] at success
    | ok e'' =>
      simp [exec, changed] at success
      obtain ⟨rfl, -⟩ := success
      obtain ⟨b', due, rfl⟩ := setDueDate_eq_ok changed
      exact ⟨b', at_, .setDueDate due, rfl⟩
  | setRemark remark at_ =>
    simp [exec] at success
    obtain ⟨rfl, -⟩ := success
    exact ⟨_, at_, .setRemark, rfl⟩

end Entry

end Subledger
