import Subledger.Proofs.Command
import Subledger.Proofs.Decimal.Value
import Subledger.Ledger.Entry
import Subledger.Voucher.Basic
import Subledger.Memo.Basic
import Subledger.Income.Basic
import Subledger.Expense.Basic

/-! # Opening documents

Every factory runs its checks in a fixed order and refuses with the validation error of the
first that fails; otherwise it opens the document and announces it. `Cmd.Screens x f checks P`
says exactly that of a command, and a factory is screened one validator at a time. A new
document repeats its request (`toDraft`), owes all of its amount and starts at version 1.

Main statement: `factories_follow_their_checks`.
-/

namespace Subledger

/-! ## Checks -/

/-- The error of the first failing check, each check given as whether it fails and the error
it refuses with. -/
def firstError (checks : List (Bool × DomainError)) : Option DomainError :=
  (checks.find? (·.1)).map (·.2)

@[simp] theorem firstError_nil : firstError [] = none := rfl

@[simp] theorem firstError_cons (fails : Bool) (e : DomainError)
    (rest : List (Bool × DomainError)) :
    firstError ((fails, e) :: rest) = if fails then some e else firstError rest := by
  cases fails <;> simp [firstError]

theorem firstError_append (checks rest : List (Bool × DomainError)) :
    firstError (checks ++ rest) = (firstError checks).or (firstError rest) := by
  simp [firstError, List.find?_append, Option.map_or]

/-- The outcome of a list of checks: refused with the first failing check's error. -/
def verdict (checks : List (Bool × DomainError)) : Outcome Unit :=
  match firstError checks with
  | some e => .error e
  | none => .ok ()

namespace Validate

/-- A document number is given and has at most 50 characters. -/
def numberChecks (code : ErrorCode) (label number : String) : List (Bool × DomainError) :=
  [(decide (number = ""), .validation code s!"{label} number cannot be empty"),
    (decide (50 < number.length),
      .validation code s!"{label} number cannot exceed {maxNumberLength} characters")]

/-- An identifier is given: it is not the all-zero one. -/
def givenCheck (code : ErrorCode) (message : String) (id : Uuid) : Bool × DomainError :=
  (decide (id.value = 0), .validation code message)

/-- A text is not empty. -/
def filledCheck (code : ErrorCode) (message text : String) : Bool × DomainError :=
  (decide (text = ""), .validation code message)

/-- An amount is above zero. -/
def positiveCheck (message : String) (amount : Money) : Bool × DomainError :=
  (decide (amount.amount.value ≤ 0), .validation .invalidAmount message)

/-- The details of a booking: an amount above zero, then a description of 1 to 500
characters. -/
def detailsChecks (amount : Money) (description : String) : List (Bool × DomainError) :=
  [positiveCheck "Amount must be positive" amount,
    filledCheck .invalidDescription "Description cannot be empty" description,
    (decide (500 < description.length), .validation .invalidDescription
      s!"Description cannot exceed {maxDescriptionLength} characters")]

theorem eq_empty_iff (text : String) : text = "" ↔ text.toList.length = 0 := by
  rw [List.length_eq_zero_iff, String.toList_eq_nil_iff]

/-- A document number passes exactly when it has 1 to 50 characters, however many bytes they
take. -/
theorem numberChecks_pass_iff (code : ErrorCode) (label number : String) :
    firstError (numberChecks code label number) = none ↔
      1 ≤ number.toList.length ∧ number.toList.length ≤ 50 := by
  simp only [numberChecks, firstError_cons, firstError_nil, eq_empty_iff, ← String.length_toList]
  by_cases none : number.toList.length = 0
  · simp [none]
  · by_cases long : 50 < number.toList.length
    · simp [none, long]
    · simp only [none, long, decide_false, Bool.false_eq_true, ↓reduceIte, true_iff]
      omega

/-- Fifty two-byte characters make a number of 100 bytes that passes; one more is refused. -/
example : (String.ofList (List.replicate 50 'é')).utf8ByteSize = 100 ∧
    firstError (numberChecks .invalidVoucherNumber "Voucher"
      (String.ofList (List.replicate 50 'é'))) = none ∧
    firstError (numberChecks .invalidVoucherNumber "Voucher"
      (String.ofList (List.replicate 51 'é'))) ≠ none :=
  ⟨by decide, by simp [numberChecks_pass_iff], by simp [numberChecks_pass_iff]⟩

theorem detailsChecks_pass_iff (amount : Money) (description : String) :
    firstError (detailsChecks amount description) = none ↔
      0 < amount.amount.value ∧ 1 ≤ description.toList.length ∧
        description.toList.length ≤ 500 := by
  simp only [detailsChecks, positiveCheck, filledCheck, firstError_cons, firstError_nil,
    eq_empty_iff, ← String.length_toList]
  by_cases positive : amount.amount.value ≤ 0
  · simp [positive]
  · by_cases none : description.toList.length = 0
    · simp [positive, none]
    · by_cases long : 500 < description.toList.length
      · simp [positive, none, long]
      · simp only [positive, none, long, decide_false, Bool.false_eq_true, ↓reduceIte, true_iff]
        exact ⟨lt_of_not_ge positive, by omega, by omega⟩

theorem documentNumber_eq (code : ErrorCode) (label number : String) :
    documentNumber code label number = verdict (numberChecks code label number) := by
  by_cases empty : number = ""
  · simp [documentNumber, numberChecks, verdict, empty]
  · by_cases long : 50 < number.length
    · simp [documentNumber, numberChecks, verdict, empty, long, maxNumberLength]
    · simp [documentNumber, numberChecks, verdict, empty, long, maxNumberLength]

theorem present_eq (code : ErrorCode) (message : String) (id : Uuid) :
    present code message id = verdict [givenCheck code message id] := by
  by_cases nil : id.value = 0 <;> simp [present, givenCheck, verdict, Uuid.isNil, nil]

theorem nonEmpty_eq (code : ErrorCode) (message text : String) :
    nonEmpty code message text = verdict [filledCheck code message text] := by
  by_cases empty : text = "" <;> simp [nonEmpty, filledCheck, verdict, empty]

theorem isPositive_eq (amount : Money) :
    amount.isPositive = !decide (amount.amount.value ≤ 0) := by
  by_cases positive : 0 < amount.amount.value
  · simp [Money.isPositive, Decimal.isPositive_iff.mpr positive, not_le.mpr positive]
  · have := mt Decimal.isPositive_iff.mp positive
    simp_all [Money.isPositive]

theorem details_eq (amount : Money) (description : String) :
    details amount description = verdict (detailsChecks amount description) := by
  by_cases positive : amount.amount.value ≤ 0
  · simp [details, detailsChecks, positiveCheck, verdict, isPositive_eq, positive]
  · by_cases empty : description = ""
    · simp [details, detailsChecks, positiveCheck, filledCheck, verdict, isPositive_eq, positive,
        nonEmpty, empty]
    · by_cases long : 500 < description.length
      · simp [details, detailsChecks, positiveCheck, filledCheck, verdict, isPositive_eq, positive,
          nonEmpty, empty, maxLength, long, maxDescriptionLength]
        -- the label and the rest of the message are one literal
        rfl
      · simp [details, detailsChecks, positiveCheck, filledCheck, verdict, isPositive_eq, positive,
          nonEmpty, empty, maxLength, long, maxDescriptionLength]

end Validate

/-! ## Screening -/

namespace Cmd

variable {α : Type} {f : Fresh} {P : α → Prop}

/-- Run from `f`, the command refuses with the error of the first failing check, and when no
check fails it goes through with a result satisfying `P`. -/
structure Screens (x : Cmd α) (f : Fresh) (checks : List (Bool × DomainError)) (P : α → Prop) :
    Prop where
  refuses : ∀ e, firstError checks = some e → x.run f = .error (.refused e)
  passes : firstError checks = none → ∃ a f', x.run f = .ok (a, f') ∧ P a

theorem Screens.goes_through_iff {x : Cmd α} {checks : List (Bool × DomainError)}
    (screens : x.Screens f checks P) :
    (∃ a f', x.run f = .ok (a, f')) ↔ firstError checks = none := by
  constructor
  · rintro ⟨a, f', success⟩
    cases first : firstError checks with
    | none => rfl
    | some e => simp [screens.refuses e first] at success
  · intro pass
    obtain ⟨a, f', success, -⟩ := screens.passes pass
    exact ⟨a, f', success⟩

theorem screens_nil {x : Cmd α} {a : α} {f' : Fresh} (success : x.run f = .ok (a, f'))
    (holds : P a) : x.Screens f [] P :=
  ⟨fun _ none => (by cases none), fun _ => ⟨a, f', success, holds⟩⟩

/-- Screening depends on the run only, and on the checks only through the first that fails. -/
theorem Screens.congr {x y : Cmd α} {checks checks' : List (Bool × DomainError)}
    (run : x.run f = y.run f) (first : firstError checks = firstError checks')
    (screens : y.Screens f checks' P) : x.Screens f checks P :=
  ⟨fun e failing => run ▸ screens.refuses e (first ▸ failing),
    fun pass => run ▸ screens.passes (first ▸ pass)⟩

/-- Running a list of checks first screens them ahead of the rest. -/
theorem screens_check_bind {checks rest : List (Bool × DomainError)} {g : Unit → Cmd α}
    (next : (g ()).Screens f rest P) :
    (check (verdict checks) >>= g).Screens f (checks ++ rest) P := by
  cases first : firstError checks with
  | some e =>
    have refused : (check (verdict checks) >>= g).run f = .error (.refused e) := by
      simp [verdict, first, check, refuse]
    have failing : firstError (checks ++ rest) = some e := by
      rw [firstError_append, first, Option.some_or]
    refine ⟨fun e' failing' => ?_, fun pass => ?_⟩
    · rw [failing] at failing'
      cases failing'
      exact refused
    · rw [failing] at pass
      cases pass
  | none =>
    have passed : (check (verdict checks) >>= g).run f = (g ()).run f := by
      simp [verdict, first, check]
    exact next.congr passed (by rw [firstError_append, first, Option.none_or])

theorem screens_check_bind_last {checks : List (Bool × DomainError)} {g : Unit → Cmd α}
    (next : (g ()).Screens f [] P) : (check (verdict checks) >>= g).Screens f checks P :=
  (screens_check_bind next).congr rfl (by rw [List.append_nil])

theorem screens_check_cons_bind {c : Bool × DomainError} {rest : List (Bool × DomainError)}
    {g : Unit → Cmd α} (next : (g ()).Screens f rest P) :
    (check (verdict [c]) >>= g).Screens f (c :: rest) P :=
  screens_check_bind next

theorem screens_unless_positive {amount : Money} {message : String}
    {rest : List (Bool × DomainError)} {g : Unit → Cmd α} (next : (g ()).Screens f rest P) :
    (if amount.isPositive = true then g ()
      else refuse (.validation .invalidAmount message) >>= g).Screens f
        (Validate.positiveCheck message amount :: rest) P := by
  by_cases positive : amount.amount.value ≤ 0
  · have refused : amount.isPositive = false := by simp [Validate.isPositive_eq, positive]
    refine ⟨fun e first => ?_, fun pass => ?_⟩
    · simp [Validate.positiveCheck, positive] at first
      simp [refused, ← first, refuse]
    · simp [Validate.positiveCheck, positive] at pass
  · have passed : amount.isPositive = true := by simp [Validate.isPositive_eq, positive]
    exact next.congr (by simp only [passed, ↓reduceIte])
      (by simp [Validate.positiveCheck, positive])

end Cmd

/-! ## Receivables and payables -/

namespace Entry

/-- The request an entry repeats: its document fields, its total and due date, and when it was
opened. -/
def toDraft (e : Entry) : EntryDraft :=
  ⟨e.tenant, e.number, e.party, e.partyName, e.sourceType, e.source, e.sourceNumber,
    e.balance.totalMoney, e.balance.dueDate, e.createdAt⟩

/-- The checks that open an entry, in order. -/
def openingChecks (side : Side) (d : EntryDraft) : List (Bool × DomainError) :=
  Validate.numberChecks (numberCode side) side.entryLabel d.number ++
    [Validate.givenCheck (side.pick .invalidCustomer .invalidSupplier)
        s!"{side.partyLabel} ID cannot be empty" d.party,
      Validate.filledCheck (side.pick .invalidCustomerName .invalidSupplierName)
        s!"{side.partyLabel} name cannot be empty" d.partyName,
      Validate.givenCheck .invalidSourceId "Source ID cannot be empty" d.source,
      Validate.filledCheck .invalidSourceNumber "Source number cannot be empty" d.sourceNumber,
      Validate.positiveCheck "Total amount must be positive" d.total]

/-- A new entry for the request `d` under the identifier `id`, with its announcement. -/
structure Opens (side : Side) (d : EntryDraft) (id : Uuid) (result : Entry × Envelope EntryEvent) :
    Prop where
  /-- It repeats the request, on the given side, under the new identifier. -/
  repeats : result.1.side = side ∧ result.1.id = id ∧ result.1.toDraft = d
  /-- Pending, nothing paid, all of the total outstanding, and no payment records. -/
  balance : result.1.balance.status = .pending ∧ result.1.balance.paid = Decimal.zero ∧
    result.1.balance.outstanding = d.total.amount ∧ result.1.balance.records = []
  /-- The first version, last changed when it was opened. -/
  version : result.1.version = 1 ∧ result.1.updatedAt = result.1.createdAt
  /-- The creation of `id` from `d`, first in the entry's sequence. -/
  announced : result.2.tenant = d.tenant ∧ result.2.aggregate = id ∧ result.2.sequence = 1 ∧
    result.2.occurredAt = d.occurredAt ∧ result.2.payload = .created d id

theorem create_screens (side : Side) (d : EntryDraft) (f : Fresh) :
    (create side d).Screens f (openingChecks side d) (Opens side d f.peek) := by
  unfold create
  rw [Validate.documentNumber_eq, Validate.present_eq, Validate.nonEmpty_eq, Validate.present_eq,
    Validate.nonEmpty_eq]
  refine Cmd.screens_check_bind (Cmd.screens_check_cons_bind (Cmd.screens_check_cons_bind
    (Cmd.screens_check_cons_bind (Cmd.screens_check_cons_bind
      (Cmd.screens_unless_positive (Cmd.screens_nil rfl ?_))))))
  exact ⟨⟨rfl, rfl, rfl⟩, ⟨rfl, rfl, rfl, rfl⟩, ⟨rfl, rfl⟩, ⟨rfl, rfl, rfl, rfl, rfl⟩⟩

end Entry

/-! ## Vouchers -/

namespace Voucher

/-- The request a voucher repeats: its document fields, its amount, how and when the money
moved, and when it was opened. -/
def toDraft (v : Voucher) : VoucherDraft :=
  ⟨v.tenant, v.number, v.party, v.partyName, v.amountMoney, v.method, v.date, v.createdAt⟩

/-- The checks that open a voucher, in order. -/
def openingChecks (side : Side) (d : VoucherDraft) : List (Bool × DomainError) :=
  Validate.numberChecks .invalidVoucherNumber "Voucher" d.number ++
    [Validate.givenCheck (side.pick .invalidCustomer .invalidSupplier)
        s!"{side.partyLabel} ID cannot be empty" d.party,
      Validate.filledCheck (side.pick .invalidCustomerName .invalidSupplierName)
        s!"{side.partyLabel} name cannot be empty" d.partyName,
      Validate.positiveCheck "Amount must be positive" d.amount]

/-- A new voucher for the request `d` under the identifier `id`, with its announcement. -/
structure Opens (side : Side) (d : VoucherDraft) (id : Uuid)
    (result : Voucher × Envelope VoucherEvent) : Prop where
  /-- It repeats the request, on the given side, under the new identifier. -/
  repeats : result.1.side = side ∧ result.1.id = id ∧ result.1.toDraft = d
  /-- A draft, nothing allocated, all of the amount left to allocate, and no allocations. -/
  unallocated : result.1.status = .draft ∧ result.1.allocated = Decimal.zero ∧
    result.1.unallocated = d.amount.amount ∧ result.1.allocations = []
  /-- The first version, last changed when it was opened. -/
  version : result.1.version = 1 ∧ result.1.updatedAt = result.1.createdAt
  /-- The creation of the voucher with the request's amount, first in its sequence. -/
  announced : result.2.tenant = d.tenant ∧ result.2.aggregate = id ∧ result.2.sequence = 1 ∧
    result.2.occurredAt = d.occurredAt ∧ result.2.payload = .created result.1 d.amount d.occurredAt

theorem create_screens (side : Side) (d : VoucherDraft) (f : Fresh) :
    (create side d).Screens f (openingChecks side d) (Opens side d f.peek) := by
  unfold create
  rw [Validate.documentNumber_eq, Validate.present_eq, Validate.nonEmpty_eq]
  refine Cmd.screens_check_bind (Cmd.screens_check_cons_bind (Cmd.screens_check_cons_bind
    (Cmd.screens_unless_positive (Cmd.screens_nil rfl ?_))))
  exact ⟨⟨rfl, rfl, rfl⟩, ⟨rfl, rfl, rfl, rfl⟩, ⟨rfl, rfl⟩, ⟨rfl, rfl, rfl, rfl, rfl⟩⟩

end Voucher

/-! ## Credit and debit memos -/

namespace Memo

/-- The request a memo repeats: its document fields, its total and reason, and when it was
opened. -/
def toDraft (m : Memo) : MemoDraft :=
  ⟨m.tenant, m.number, m.returnDoc, m.returnNumber, m.order, m.orderNumber, m.party,
    m.partyName, m.totalMoney, m.reason, m.createdAt⟩

/-- The checks that open a memo, in order. -/
def openingChecks (side : Side) (d : MemoDraft) : List (Bool × DomainError) :=
  Validate.numberChecks .invalidMemoNumber "Memo" d.number ++
    [Validate.givenCheck (side.pick .invalidSalesReturn .invalidPurchaseReturn)
        (side.pick "Sales return ID cannot be empty" "Purchase return ID cannot be empty")
        d.returnDoc,
      Validate.givenCheck (side.pick .invalidSalesOrder .invalidPurchaseOrder)
        (side.pick "Sales order ID cannot be empty" "Purchase order ID cannot be empty") d.order,
      Validate.givenCheck (side.pick .invalidCustomer .invalidSupplier)
        s!"{side.partyLabel} ID cannot be empty" d.party,
      Validate.filledCheck (side.pick .invalidCustomerName .invalidSupplierName)
        s!"{side.partyLabel} name cannot be empty" d.partyName,
      Validate.positiveCheck s!"Total {side.memoKind} must be positive" d.total]

/-- A new memo for the request `d` under the identifier `id`, with its announcement. -/
structure Opens (side : Side) (d : MemoDraft) (id : Uuid) (result : Memo × Envelope MemoEvent) :
    Prop where
  /-- It repeats the request, on the given side, under the new identifier. -/
  repeats : result.1.side = side ∧ result.1.id = id ∧ result.1.toDraft = d
  /-- Pending, nothing applied, all of the total remaining, and no items or applications. -/
  remaining : result.1.status = .pending ∧ result.1.applied = Decimal.zero ∧
    result.1.remaining = d.total.amount ∧ result.1.items = [] ∧ result.1.applications = []
  /-- The first version, last changed when it was opened. -/
  version : result.1.version = 1 ∧ result.1.updatedAt = result.1.createdAt
  /-- The creation of the memo with the request's total, first in its sequence. -/
  announced : result.2.tenant = d.tenant ∧ result.2.aggregate = id ∧ result.2.sequence = 1 ∧
    result.2.occurredAt = d.occurredAt ∧ result.2.payload = .created result.1 d.total d.occurredAt

theorem create_screens (side : Side) (d : MemoDraft) (f : Fresh) :
    (create side d).Screens f (openingChecks side d) (Opens side d f.peek) := by
  unfold create
  rw [Validate.documentNumber_eq, Validate.present_eq, Validate.present_eq, Validate.present_eq,
    Validate.nonEmpty_eq]
  refine Cmd.screens_check_bind (Cmd.screens_check_cons_bind (Cmd.screens_check_cons_bind
    (Cmd.screens_check_cons_bind (Cmd.screens_check_cons_bind
      (Cmd.screens_unless_positive (Cmd.screens_nil rfl ?_))))))
  exact ⟨⟨rfl, rfl, rfl⟩, ⟨rfl, rfl, rfl, rfl, rfl⟩, ⟨rfl, rfl⟩, ⟨rfl, rfl, rfl, rfl, rfl⟩⟩

end Memo

/-! ## Other income and expenses -/

namespace Income

/-- The request an income record repeats. -/
def toDraft (r : Income) : IncomeDraft :=
  ⟨r.tenant, r.number, r.category, r.amount, r.description, r.receivedAt, r.createdAt⟩

/-- The checks that book an income, in order. -/
def openingChecks (d : IncomeDraft) : List (Bool × DomainError) :=
  Validate.numberChecks .invalidIncomeNumber "Income" d.number ++
    Validate.detailsChecks d.amount d.description

/-- A new income record for the request `d` under the identifier `id`, with its
announcement. -/
structure Opens (d : IncomeDraft) (id : Uuid) (result : Income × Envelope IncomeEvent) :
    Prop where
  /-- It repeats the request under the new identifier. -/
  repeats : result.1.id = id ∧ result.1.toDraft = d
  /-- A draft not yet received, with no attachments. -/
  draft : result.1.status = .draft ∧ result.1.receipt = .pending ∧ result.1.attachments = []
  /-- The first version, last changed when it was booked. -/
  version : result.1.version = 1 ∧ result.1.updatedAt = result.1.createdAt
  /-- The creation of the record, first in its sequence. -/
  announced : result.2.tenant = d.tenant ∧ result.2.aggregate = id ∧ result.2.sequence = 1 ∧
    result.2.occurredAt = d.occurredAt ∧ result.2.payload = .created result.1 d.occurredAt

theorem create_screens (d : IncomeDraft) (f : Fresh) :
    (create d).Screens f (openingChecks d) (Opens d f.peek) := by
  unfold create
  rw [Validate.documentNumber_eq, Validate.details_eq]
  refine Cmd.screens_check_bind (Cmd.screens_check_bind_last (Cmd.screens_nil rfl ?_))
  exact ⟨⟨rfl, rfl⟩, ⟨rfl, rfl, rfl⟩, ⟨rfl, rfl⟩, ⟨rfl, rfl, rfl, rfl, rfl⟩⟩

end Income

namespace Expense

/-- The request an expense record repeats. -/
def toDraft (r : Expense) : ExpenseDraft :=
  ⟨r.tenant, r.number, r.category, r.amount, r.description, r.incurredAt, r.createdAt⟩

/-- The checks that book an expense, in order. -/
def openingChecks (d : ExpenseDraft) : List (Bool × DomainError) :=
  Validate.numberChecks .invalidExpenseNumber "Expense" d.number ++
    Validate.detailsChecks d.amount d.description

/-- A new expense record for the request `d` under the identifier `id`, with its
announcement. -/
structure Opens (d : ExpenseDraft) (id : Uuid) (result : Expense × Envelope ExpenseEvent) :
    Prop where
  /-- It repeats the request under the new identifier. -/
  repeats : result.1.id = id ∧ result.1.toDraft = d
  /-- A draft not yet paid out, with no attachments. -/
  draft : result.1.status = .draft ∧ result.1.payout = .unpaid ∧ result.1.attachments = []
  /-- The first version, last changed when it was booked. -/
  version : result.1.version = 1 ∧ result.1.updatedAt = result.1.createdAt
  /-- The creation of the record, first in its sequence. -/
  announced : result.2.tenant = d.tenant ∧ result.2.aggregate = id ∧ result.2.sequence = 1 ∧
    result.2.occurredAt = d.occurredAt ∧ result.2.payload = .created result.1 d.occurredAt

theorem create_screens (d : ExpenseDraft) (f : Fresh) :
    (create d).Screens f (openingChecks d) (Opens d f.peek) := by
  unfold create
  rw [Validate.documentNumber_eq, Validate.details_eq]
  refine Cmd.screens_check_bind (Cmd.screens_check_bind_last (Cmd.screens_nil rfl ?_))
  exact ⟨⟨rfl, rfl⟩, ⟨rfl, rfl, rfl⟩, ⟨rfl, rfl⟩, ⟨rfl, rfl, rfl, rfl, rfl⟩⟩

end Expense

/-! ## All factories -/

/-- Each of the eight factories (receivables and payables, receipt and payment vouchers, credit
and debit memos, incomes and expenses) refuses with the validation error of the first of its
checks that fails, in the order it runs them, and goes through exactly when all pass. The new
document repeats the request under the freshly drawn identifier, is a draft or pending with
nothing settled and all of its amount open, in the amount's currency and with no child records,
at version 1 and last changed when it was opened, and is announced by a creation event first in
its sequence. -/
theorem factories_follow_their_checks (side : Side) (f : Fresh) (entry : EntryDraft)
    (voucher : VoucherDraft) (memo : MemoDraft) (income : IncomeDraft) (expense : ExpenseDraft) :
    (Entry.create side entry).Screens f (Entry.openingChecks side entry)
        (Entry.Opens side entry f.peek) ∧
      (Voucher.create side voucher).Screens f (Voucher.openingChecks side voucher)
        (Voucher.Opens side voucher f.peek) ∧
      (Memo.create side memo).Screens f (Memo.openingChecks side memo)
        (Memo.Opens side memo f.peek) ∧
      (Income.create income).Screens f (Income.openingChecks income)
        (Income.Opens income f.peek) ∧
      (Expense.create expense).Screens f (Expense.openingChecks expense)
        (Expense.Opens expense f.peek) :=
  ⟨Entry.create_screens side entry f, Voucher.create_screens side voucher f,
    Memo.create_screens side memo f, Income.create_screens income f,
    Expense.create_screens expense f⟩

end Subledger
