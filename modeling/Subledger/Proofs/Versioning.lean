import Mathlib.Data.List.ReduceOption
import Subledger.Proofs.Ensures
import Subledger.Proofs.Voucher.Step
import Subledger.Proofs.Memo.Step
import Subledger.Proofs.Booking.Step
import Subledger.Version

/-! # Versions and event sequence numbers

A refused command leaves nothing behind, so what needs proof is that every command that goes
through raises the version by one, stamps its own time and seals its event at the new version.
Each of the five kinds of document is seen as a `Kind`, and `Kind.Versioned` is proved once
for any kind from the law of its factory (`Kind.Starts`) and of one command
(`Kind.Disciplined`).
-/

namespace Subledger

/-- A kind of document, as its versions see it. -/
structure Kind (Draft S Op E : Type) where
  /-- Opens a document from a draft and seals its first event. -/
  create : Draft → Cmd (S × Envelope E)
  /-- Runs a command: the document it leaves and the envelope it seals, if it announces an
  event. -/
  call : S → Op → Cmd (S × Option (Envelope E))
  version : S → Nat
  updatedAt : S → Instant
  /-- When a command takes place. -/
  time : Op → Instant

namespace Kind

variable {Draft S Op E : Type} (d : Kind Draft S Op E)

/-- The factory opens every document at version one, where it also seals its event. -/
def Starts : Prop :=
  ∀ draft f, (d.create draft).Ensures f fun r => d.version r.1 = 1 ∧ r.2.sequence = 1

/-- The law of one command: when it goes through, the version rises by one (wrapping at
`2 ^ 64`), the time of the last change becomes the command's, and the envelope it seals, if
any, carries the new version. -/
def Disciplined : Prop :=
  ∀ s op f, (d.call s op).Ensures f fun r =>
    d.version r.1 = (d.version s + 1) % Nat.pow 2 64 ∧ d.updatedAt r.1 = d.time op ∧
      ∀ env ∈ r.2, env.sequence = d.version r.1

/-- A session runs commands one after another from a document, as the console does: a refused
command leaves the document and the source of identifiers as they were, and an aborted one ends
the session with no document. It gives, for each command that went through, the envelope it
sealed if any, and the document the session ends with. -/
def session : S → Fresh → List Op → List (Option (Envelope E)) × Option S
  | s, _, [] => ([], some s)
  | s, f, op :: ops =>
    match (d.call s op).run f with
    | .ok ((s', env), f') => (env :: (session s' f' ops).1, (session s' f' ops).2)
    | .error (.refused _) => session s f ops
    | .error (.overflowed _) => ([], none)

/-- What the versions of a kind of document guarantee, below the largest version. -/
structure Versioned : Prop where
  /-- A new document is at version one, and so is the envelope that announces it. -/
  created : ∀ draft f s env f', (d.create draft).run f = .ok ((s, env), f') →
    d.version s = 1 ∧ env.sequence = 1
  /-- A command that goes through raises the version by one, stamps its time, and seals its
  envelope, if any, at the new version. -/
  call : ∀ s op f s' env f', d.version s + 1 < Nat.pow 2 64 →
    (d.call s op).run f = .ok ((s', env), f') →
      d.version s' = d.version s + 1 ∧ d.updatedAt s' = d.time op ∧
        ∀ e ∈ env, e.sequence = d.version s'
  /-- A session in which no command goes through leaves the document as it was, unless it
  aborts. -/
  unchanged : ∀ s f ops, (d.session s f ops).1 = [] →
    (d.session s f ops).2 = some s ∨ (d.session s f ops).2 = none
  /-- Along a session, the envelope of the `i`-th command that goes through carries the starting
  version plus `i + 1`, and the session ends that many versions on. -/
  sealed : ∀ s f ops, d.version s + ops.length < Nat.pow 2 64 →
    (∀ i env, (d.session s f ops).1[i]? = some (some env) →
      env.sequence = d.version s + i + 1) ∧
    ∀ s', (d.session s f ops).2 = some s' →
      d.version s' = d.version s + (d.session s f ops).1.length
  /-- The envelopes of a session carry strictly increasing sequence numbers. -/
  increasing : ∀ s f ops, d.version s + ops.length < Nat.pow 2 64 →
    (d.session s f ops).1.reduceOption.Pairwise fun e e' => e.sequence < e'.sequence
  /-- The version expected at the start of a session still holds at its end exactly when no
  command went through; otherwise the check fails with a conflict. -/
  expected : ∀ s f ops s', d.version s + ops.length < Nat.pow 2 64 →
    (d.session s f ops).2 = some s' →
      ((d.session s f ops).1 = [] ∧
          (ExpectedVersion.exact (d.version s)).check (d.version s') = .ok ()) ∨
        ((d.session s f ops).1 ≠ [] ∧
          ∃ m, (ExpectedVersion.exact (d.version s)).check (d.version s') = .error (.conflict m))

/-! ## Sessions -/

variable {d} {s s' : S} {op : Op} {ops : List Op} {f f' : Fresh} {env : Option (Envelope E)}

theorem session_of_ok (success : (d.call s op).run f = .ok ((s', env), f')) :
    d.session s f (op :: ops) = (env :: (d.session s' f' ops).1, (d.session s' f' ops).2) := by
  simp [session, success]

theorem session_of_refused {e : DomainError} (refused : (d.call s op).run f = .error (.refused e)) :
    d.session s f (op :: ops) = d.session s f ops := by
  simp [session, refused]

theorem session_of_overflowed {m : String}
    (aborted : (d.call s op).run f = .error (.overflowed m)) :
    d.session s f (op :: ops) = ([], none) := by
  simp [session, aborted]

/-- Refusals keep the document, so a session in which nothing went through either ends where
it started or aborted. -/
theorem session_unchanged (s : S) (f : Fresh) (ops : List Op)
    (nothing : (d.session s f ops).1 = []) :
    (d.session s f ops).2 = some s ∨ (d.session s f ops).2 = none := by
  induction ops generalizing f with
  | nil => exact .inl rfl
  | cons op ops ih =>
    match run : (d.call s op).run f with
    | .ok ((s', env), f') => simp [session_of_ok run] at nothing
    | .error (.refused e) =>
      rw [session_of_refused run] at nothing ⊢
      exact ih f nothing
    | .error (.overflowed m) => simp [session_of_overflowed run]

theorem Disciplined.call_eq (disciplined : d.Disciplined) (below : d.version s + 1 < Nat.pow 2 64)
    (success : (d.call s op).run f = .ok ((s', env), f')) :
    d.version s' = d.version s + 1 ∧ d.updatedAt s' = d.time op ∧
      ∀ e ∈ env, e.sequence = d.version s' := by
  obtain ⟨version, time, sealed⟩ := (disciplined s op f).of_run_eq_ok success
  exact ⟨version.trans (Nat.mod_eq_of_lt below), time, sealed⟩

/-- Each command that goes through is one version on from the one before, so the `i`-th of
them seals at `i + 1` past the start; the induction is on the commands, with the bound on the
version carried to the rest of the session. -/
theorem Disciplined.sealed (disciplined : d.Disciplined) (s : S) (f : Fresh) (ops : List Op)
    (below : d.version s + ops.length < Nat.pow 2 64) :
    (∀ i env, (d.session s f ops).1[i]? = some (some env) →
      env.sequence = d.version s + i + 1) ∧
    ∀ s', (d.session s f ops).2 = some s' →
      d.version s' = d.version s + (d.session s f ops).1.length := by
  induction ops generalizing s f with
  | nil => simp [session]
  | cons op ops ih =>
    simp only [List.length_cons] at below
    match run : (d.call s op).run f with
    | .ok ((s', env), f') =>
      obtain ⟨version, -, sealed⟩ := disciplined.call_eq (by omega) run
      obtain ⟨sealedRest, ended⟩ := ih s' f' (by omega)
      rw [session_of_ok run]
      refine ⟨fun i e found => ?_, fun s'' last => ?_⟩
      · cases i with
        | zero =>
          rw [sealed e (by simpa using found), version]
        | succ i =>
          rw [sealedRest i e (by simpa using found), version]
          omega
      · rw [ended s'' last, version, List.length_cons]
        omega
    | .error (.refused e) =>
      rw [session_of_refused run]
      exact ih s f (by omega)
    | .error (.overflowed m) => simp [session_of_overflowed run]

/-- Options whose present values carry keys that count up by position, once the absent ones are
dropped, come in strictly increasing order of key. -/
theorem pairwise_reduceOption_of_keys {α : Type} (key : α → Nat) :
    ∀ (l : List (Option α)) (c : Nat), (∀ i a, l[i]? = some (some a) → key a = c + i) →
      l.reduceOption.Pairwise fun a b => key a < key b
  | [], _, _ => by simp
  | o :: l, c, keys => by
    have rest := pairwise_reduceOption_of_keys key l (c + 1) fun i a found => by
      rw [keys (i + 1) a (by simpa using found)]
      omega
    cases o with
    | none => simpa using rest
    | some a =>
      simp only [List.reduceOption_cons_of_some, List.pairwise_cons]
      refine ⟨fun b mem => ?_, rest⟩
      obtain ⟨i, found⟩ := List.mem_iff_getElem?.mp (List.reduceOption_mem_iff.mp mem)
      rw [keys 0 a rfl, keys (i + 1) b (by simpa using found)]
      omega

theorem Disciplined.increasing (disciplined : d.Disciplined) (s : S) (f : Fresh) (ops : List Op)
    (below : d.version s + ops.length < Nat.pow 2 64) :
    (d.session s f ops).1.reduceOption.Pairwise fun e e' => e.sequence < e'.sequence :=
  pairwise_reduceOption_of_keys Envelope.sequence _ (d.version s + 1) fun i e found => by
    rw [(disciplined.sealed s f ops below).1 i e found]
    omega

/-- An expectation taken at the start of a session fails at its end exactly when something
went through: refusals keep the version, and every command that goes through raises it. -/
theorem Disciplined.expected (disciplined : d.Disciplined) (s : S) (f : Fresh) (ops : List Op)
    (s' : S) (below : d.version s + ops.length < Nat.pow 2 64)
    (ended : (d.session s f ops).2 = some s') :
    ((d.session s f ops).1 = [] ∧
        (ExpectedVersion.exact (d.version s)).check (d.version s') = .ok ()) ∨
      ((d.session s f ops).1 ≠ [] ∧
        ∃ m, (ExpectedVersion.exact (d.version s)).check (d.version s') = .error (.conflict m)) := by
  by_cases nothing : (d.session s f ops).1 = []
  · have same : s' = s := by
      rcases session_unchanged s f ops nothing with kept | aborted
      · rw [ended] at kept
        exact Option.some.inj kept
      · rw [ended] at aborted
        cases aborted
    left
    rw [same]
    exact ⟨nothing, by simp [ExpectedVersion.check, ExpectedVersion.accepts]⟩
  · have moved : d.version s' = d.version s + (d.session s f ops).1.length :=
      (disciplined.sealed s f ops below).2 s' ended
    have some : (d.session s f ops).1.length ≠ 0 := by simpa using nothing
    right
    refine ⟨nothing, ?_⟩
    simp [ExpectedVersion.check, ExpectedVersion.accepts, moved, some]

theorem versioned (starts : d.Starts) (disciplined : d.Disciplined) : d.Versioned where
  created draft f _ _ _ success := (starts draft f).of_run_eq_ok success
  call _ _ _ _ _ _ below success := disciplined.call_eq below success
  unchanged := session_unchanged
  sealed := disciplined.sealed
  increasing := disciplined.increasing
  expected := disciplined.expected

end Kind

/-! ## Receivables and payables -/

/-- When a command on a ledger entry takes place. -/
def EntryOp.time : EntryOp → Instant
  | .applyPayment _ _ _ at_ | .reverse _ at_ | .cancel _ at_ | .setDueDate _ at_
  | .setRemark _ at_ => at_

namespace Entry

/-- Runs a command on an entry, keeping the entry it leaves and the envelope it seals. -/
def call (e : Entry) : EntryOp → Cmd (Entry × Option (Envelope EntryEvent))
  | .applyPayment amount voucher remark at_ =>
    (fun r => (r.1, some r.2)) <$> e.applyPayment amount voucher remark at_
  | .reverse reason at_ => (fun r => (r.1, some r.2.2)) <$> e.reverse reason at_
  | .cancel reason at_ => (fun r => (r.1, some r.2)) <$> e.cancel reason at_
  | .setDueDate dueDate at_ => (·, none) <$> Cmd.check (e.setDueDate dueDate at_)
  | .setRemark remark at_ => pure (e.setRemark remark at_, none)

/-- Receivables and payables as a kind of document; the draft names the side. -/
def kind : Kind (Side × EntryDraft) Entry EntryOp EntryEvent where
  create draft := Entry.create draft.1 draft.2
  call := call
  version := version
  updatedAt := updatedAt
  time := EntryOp.time

theorem kind_starts : kind.Starts := by
  intro draft f
  simp [kind, create, announce]

theorem kind_disciplined : kind.Disciplined := by
  intro e op f
  cases op with
  | applyPayment amount voucher remark at_ =>
    simp [kind, call, applyPayment, Cmd.ensures_bind, announce, touch, EntryOp.time]
  | reverse reason at_ =>
    simp [kind, call, reverse, Cmd.ensures_bind, announce, touch, EntryOp.time]
  | cancel reason at_ =>
    simp [kind, call, cancel, announce, touch, EntryOp.time]
  | setDueDate dueDate at_ =>
    simp only [kind, call, Cmd.ensures_map, Cmd.ensures_check]
    intro e' changed
    obtain ⟨b', -, rfl⟩ := setDueDate_eq_ok changed
    simp [touch, EntryOp.time]
  | setRemark remark at_ =>
    simp [kind, call, setRemark, touch, EntryOp.time]

end Entry

/-! ## Payment and receipt vouchers -/

/-- When a command on a voucher takes place. -/
def VoucherOp.time : VoucherOp → Instant
  | .confirm _ at_ | .allocate _ _ _ _ at_ | .cancel _ _ at_ | .setReference _ at_
  | .setRemark _ at_ => at_

namespace Voucher

/-- Runs a command on a voucher, keeping the voucher it leaves and the envelope it seals. -/
def call (v : Voucher) : VoucherOp → Cmd (Voucher × Option (Envelope VoucherEvent))
  | .confirm user at_ => (fun r => (r.1, some r.2)) <$> v.confirm user at_
  | .allocate target targetNumber amount remark at_ =>
    (fun r => (r.1, some r.2.2)) <$> v.allocate target targetNumber amount remark at_
  | .cancel user reason at_ => (fun r => (r.1, some r.2)) <$> v.cancel user reason at_
  | .setReference reference at_ => (·, none) <$> Cmd.check (v.setReference reference at_)
  | .setRemark remark at_ => (·, none) <$> Cmd.check (v.setRemark remark at_)

/-- Payment and receipt vouchers as a kind of document; the draft names the side. -/
def kind : Kind (Side × VoucherDraft) Voucher VoucherOp VoucherEvent where
  create draft := Voucher.create draft.1 draft.2
  call := call
  version := version
  updatedAt := updatedAt
  time := VoucherOp.time

theorem kind_starts : kind.Starts := by
  intro draft f
  simp [kind, create, announce]

theorem kind_disciplined : kind.Disciplined := by
  intro v op f
  cases op with
  | confirm user at_ => simp [kind, call, confirm, announce, touch, VoucherOp.time]
  | allocate target targetNumber amount remark at_ =>
    simp [kind, call, allocate, announce, touch, VoucherOp.time]
  | cancel user reason at_ => simp [kind, call, cancel, announce, touch, VoucherOp.time]
  | setReference reference at_ =>
    simp only [kind, call, Cmd.ensures_map, Cmd.ensures_check]
    intro v' changed
    obtain ⟨-, -, rfl⟩ := setReference_eq_ok changed
    simp [touch, VoucherOp.time]
  | setRemark remark at_ =>
    simp only [kind, call, Cmd.ensures_map, Cmd.ensures_check]
    intro v' changed
    obtain ⟨-, rfl⟩ := setRemark_eq_ok changed
    simp [touch, VoucherOp.time]

end Voucher

/-! ## Credit and debit memos -/

/-- When a command on a memo takes place. -/
def MemoOp.time : MemoOp → Instant
  | .addItem _ at_ | .linkEntry _ at_ | .apply _ _ _ at_ | .void _ at_ | .refund _ at_
  | .setRemark _ at_ => at_

namespace Memo

/-- Runs a command on a memo, keeping the memo it leaves and the envelope it seals. -/
def call (m : Memo) : MemoOp → Cmd (Memo × Option (Envelope MemoEvent))
  | .addItem line at_ => (fun r => (r.1, none)) <$> m.addItem line at_
  | .linkEntry target at_ => (·, none) <$> Cmd.check (m.linkEntry target at_)
  | .apply target amount remark at_ => (fun r => (r.1, some r.2)) <$> m.apply target amount remark at_
  | .void reason at_ => (fun r => (r.1, some r.2)) <$> m.void reason at_
  | .refund method at_ => (fun r => (r.1, some r.2)) <$> m.refund method at_
  | .setRemark remark at_ => pure (m.setRemark remark at_, none)

/-- Credit and debit memos as a kind of document; the draft names the side. -/
def kind : Kind (Side × MemoDraft) Memo MemoOp MemoEvent where
  create draft := Memo.create draft.1 draft.2
  call := call
  version := version
  updatedAt := updatedAt
  time := MemoOp.time

theorem kind_starts : kind.Starts := by
  intro draft f
  simp [kind, create, announce]

theorem kind_disciplined : kind.Disciplined := by
  intro m op f
  cases op with
  | addItem line at_ =>
    simp only [kind, call, Cmd.ensures_map]
    rintro ⟨m', item⟩ f' success
    obtain ⟨-, -, -, -, -, -, -, -, -, -, rfl⟩ := addItem_eq_ok success
    simp [touch, MemoOp.time]
  | linkEntry target at_ =>
    simp only [kind, call, Cmd.ensures_map, Cmd.ensures_check]
    intro m' changed
    rw [linkEntry_eq_ok changed]
    simp [touch, MemoOp.time]
  | apply target amount remark at_ => simp [kind, call, apply, announce, touch, MemoOp.time]
  | void reason at_ => simp [kind, call, void, announce, touch, MemoOp.time]
  | refund method at_ => simp [kind, call, refund, announce, touch, MemoOp.time]
  | setRemark remark at_ => simp [kind, call, setRemark, touch, MemoOp.time]

end Memo

/-! ## Expense and other-income records -/

/-- When a command on an expense record takes place. -/
def ExpenseOp.time : ExpenseOp → Instant
  | .update _ _ _ _ at_ | .submit _ at_ | .approve _ _ at_ | .reject _ _ at_ | .cancel _ _ at_
  | .markPaid _ at_ | .setRemark _ at_ | .setAttachments _ at_ => at_

namespace Expense

/-- Runs a command on an expense record, keeping the record it leaves and the envelope it
seals. -/
def call (r : Expense) : ExpenseOp → Cmd (Expense × Option (Envelope ExpenseEvent))
  | .update category amount description incurredAt at_ =>
    (·, none) <$> Cmd.check (r.update category amount description incurredAt at_)
  | .submit user at_ => (fun x => (x.1, some x.2)) <$> r.submit user at_
  | .approve user remark at_ => (fun x => (x.1, some x.2)) <$> r.approve user remark at_
  | .reject user reason at_ => (fun x => (x.1, some x.2)) <$> r.reject user reason at_
  | .cancel user reason at_ => (fun x => (x.1, some x.2)) <$> r.cancel user reason at_
  | .markPaid method at_ => (fun x => (x.1, some x.2)) <$> r.markPaid method at_
  | .setRemark remark at_ => pure (r.setRemark remark at_, none)
  | .setAttachments urls at_ => pure (r.setAttachments urls at_, none)

/-- Expense records as a kind of document. -/
def kind : Kind ExpenseDraft Expense ExpenseOp ExpenseEvent where
  create := create
  call := call
  version := version
  updatedAt := updatedAt
  time := ExpenseOp.time

theorem kind_starts : kind.Starts := by
  intro draft f
  simp [kind, create, announce]

theorem kind_disciplined : kind.Disciplined := by
  intro r op f
  cases op
  case update =>
    -- an edit is a plain outcome: what it holds is the touched record
    simp [kind, call, update, touch, ExpenseOp.time, Cmd.bind_eq_ok, Cmd.ite_eq_ok]
    rintro _ - - - rfl
    exact ⟨rfl, rfl⟩
  all_goals simp [kind, call, submit, approve, reject, cancel, markPaid, setRemark,
    setAttachments, announce, touch, ExpenseOp.time]

end Expense

/-- When a command on an other-income record takes place. -/
def IncomeOp.time : IncomeOp → Instant
  | .update _ _ _ _ at_ | .confirm _ at_ | .cancel _ _ at_ | .markReceived _ at_
  | .setRemark _ at_ | .setAttachments _ at_ => at_

namespace Income

/-- Runs a command on an other-income record, keeping the record it leaves and the envelope it
seals. -/
def call (r : Income) : IncomeOp → Cmd (Income × Option (Envelope IncomeEvent))
  | .update category amount description receivedAt at_ =>
    (·, none) <$> Cmd.check (r.update category amount description receivedAt at_)
  | .confirm user at_ => (fun x => (x.1, some x.2)) <$> r.confirm user at_
  | .cancel user reason at_ => (fun x => (x.1, some x.2)) <$> r.cancel user reason at_
  | .markReceived method at_ => (fun x => (x.1, some x.2)) <$> r.markReceived method at_
  | .setRemark remark at_ => pure (r.setRemark remark at_, none)
  | .setAttachments urls at_ => pure (r.setAttachments urls at_, none)

/-- Other-income records as a kind of document. -/
def kind : Kind IncomeDraft Income IncomeOp IncomeEvent where
  create := create
  call := call
  version := version
  updatedAt := updatedAt
  time := IncomeOp.time

theorem kind_starts : kind.Starts := by
  intro draft f
  simp [kind, create, announce]

theorem kind_disciplined : kind.Disciplined := by
  intro r op f
  cases op
  case update =>
    simp [kind, call, update, touch, IncomeOp.time, Cmd.bind_eq_ok, Cmd.ite_eq_ok]
    rintro _ - - - rfl
    exact ⟨rfl, rfl⟩
  all_goals simp [kind, call, confirm, cancel, markReceived, setRemark, setAttachments, announce,
    touch, IncomeOp.time]

end Income

/-- Every kind of document keeps its versions: a new one starts at version one; below the
largest version every command that goes through raises the version by one, stamps its time and
seals its event at the new version; a session in which nothing goes through leaves the document
as it was; the envelopes of a session count up from the starting version, one for each command
that went through; and a version expected at the start of a session fails with a conflict at its
end exactly when something went through. -/
theorem versions_of_every_kind :
    Entry.kind.Versioned ∧ Voucher.kind.Versioned ∧ Memo.kind.Versioned ∧
      Expense.kind.Versioned ∧ Income.kind.Versioned :=
  ⟨Entry.kind.versioned Entry.kind_starts Entry.kind_disciplined,
    Voucher.kind.versioned Voucher.kind_starts Voucher.kind_disciplined,
    Memo.kind.versioned Memo.kind_starts Memo.kind_disciplined,
    Expense.kind.versioned Expense.kind_starts Expense.kind_disciplined,
    Income.kind.versioned Income.kind_starts Income.kind_disciplined⟩

end Subledger
