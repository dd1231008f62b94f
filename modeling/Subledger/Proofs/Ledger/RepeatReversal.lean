import Subledger.Proofs.Ledger.Conservation

/-! # Repeated reversals of a payment record

Marking a payment record reversed a second time is refused under the `reject` policy, so the
first reversal stays on record, and stamps the record again under `overwrite`, so the last one
does. `PaymentRecord.markEach` runs a sequence of requests under one policy; a refused request
leaves the record as it was. One request always leaves the record reversed, so after the first
one the status is settled: under `reject` every later request is refused, under `overwrite`
each one restamps. No request touches what was paid, through which voucher, when, or the
remark. Main statement: `PaymentRecord.repeat_reversal_policy`.
-/

namespace Subledger

@[simp] theorem RepeatReversal.beq_eq (p q : RepeatReversal) : (p == q) = decide (p = q) := by
  cases p <;> cases q <;> rfl

namespace PaymentRecord

/-- The record after one request for a reason and a time: stamped, or as it was when the
request is refused. -/
def markOnce (policy : RepeatReversal) (r : PaymentRecord) (request : String × Instant) :
    PaymentRecord :=
  match r.markReversed request.1 request.2 policy with
  | .ok r' => r'
  | .error _ => r

/-- The record after a sequence of requests under one policy. -/
def markEach (policy : RepeatReversal) (r : PaymentRecord) (requests : List (String × Instant)) :
    PaymentRecord :=
  requests.foldl (markOnce policy) r

/-- Two records of the same payment: identifier, owner, voucher, amount, time applied and
remark agree. -/
structure SamePayment (r r' : PaymentRecord) : Prop where
  id : r'.id = r.id
  owner : r'.owner = r.owner
  voucher : r'.voucher = r.voucher
  amount : r'.amount = r.amount
  appliedAt : r'.appliedAt = r.appliedAt
  remark : r'.remark = r.remark

theorem SamePayment.refl (r : PaymentRecord) : r.SamePayment r := ⟨rfl, rfl, rfl, rfl, rfl, rfl⟩

theorem SamePayment.trans {r r' r'' : PaymentRecord} (h : r.SamePayment r')
    (h' : r'.SamePayment r'') : r.SamePayment r'' :=
  ⟨h'.id.trans h.id, h'.owner.trans h.owner, h'.voucher.trans h.voucher, h'.amount.trans h.amount,
    h'.appliedAt.trans h.appliedAt, h'.remark.trans h.remark⟩

theorem samePayment_stamp (r : PaymentRecord) (reason : String) (at_ : Instant) :
    r.SamePayment (r.stamp reason at_) :=
  ⟨rfl, rfl, rfl, rfl, rfl, rfl⟩

theorem SamePayment.stamp_eq {r r' : PaymentRecord} (h : r.SamePayment r') (reason : String)
    (at_ : Instant) : r'.stamp reason at_ = r.stamp reason at_ := by
  obtain ⟨id, owner, voucher, amount, appliedAt, remark⟩ := h
  simp only [stamp, id, owner, voucher, amount, appliedAt, remark]

/-! ## One request -/

section Once

variable {r : PaymentRecord} {policy : RepeatReversal} {reason : String} {at_ : Instant}

theorem markReversed_refused (reject : policy = .reject) (reversed : r.status = .reversed) :
    r.markReversed reason at_ policy =
      .error (.invariant .alreadyReversed s!"Payment record {r.id} is already reversed") := by
  simp [markReversed, isReversed, reject, reversed]

theorem markReversed_stamps (accepted : ¬(policy = .reject ∧ r.status = .reversed)) :
    r.markReversed reason at_ policy = .ok (r.stamp reason at_) := by
  have passes : (r.isReversed && policy == .reject) = false := by
    cases policy <;> cases status : r.status <;> simp_all [isReversed]
  simp only [markReversed, passes, Bool.false_eq_true, ↓reduceIte]

theorem markOnce_refused (reject : policy = .reject) (reversed : r.status = .reversed) :
    markOnce policy r (reason, at_) = r := by
  simp [markOnce, markReversed_refused reject reversed]

theorem markOnce_stamps (accepted : ¬(policy = .reject ∧ r.status = .reversed)) :
    markOnce policy r (reason, at_) = r.stamp reason at_ := by
  simp [markOnce, markReversed_stamps accepted]

theorem markOnce_overwrite : markOnce .overwrite r (reason, at_) = r.stamp reason at_ :=
  markOnce_stamps (by simp)

/-- After any request the record is reversed: it was stamped, or it was refused because it
already was. -/
@[simp] theorem markOnce_status (request : String × Instant) :
    (markOnce policy r request).status = .reversed := by
  obtain ⟨reason, at_⟩ := request
  by_cases refused : policy = .reject ∧ r.status = .reversed
  · rw [markOnce_refused refused.1 refused.2]
    exact refused.2
  · rw [markOnce_stamps refused]
    rfl

theorem samePayment_markOnce (request : String × Instant) :
    r.SamePayment (markOnce policy r request) := by
  obtain ⟨reason, at_⟩ := request
  by_cases refused : policy = .reject ∧ r.status = .reversed
  · rw [markOnce_refused refused.1 refused.2]
    exact SamePayment.refl r
  · rw [markOnce_stamps refused]
    exact samePayment_stamp r reason at_

end Once

/-! ## A sequence of requests -/

section Each

variable {r : PaymentRecord} {policy : RepeatReversal}

@[simp] theorem markEach_nil : markEach policy r [] = r := rfl

@[simp] theorem markEach_cons (request : String × Instant) (requests : List (String × Instant)) :
    markEach policy r (request :: requests) =
      markEach policy (markOnce policy r request) requests :=
  rfl

theorem markEach_append (pre post : List (String × Instant)) :
    markEach policy r (pre ++ post) = markEach policy (markEach policy r pre) post :=
  List.foldl_append

theorem markEach_concat (pre : List (String × Instant)) (request : String × Instant) :
    markEach policy r (pre ++ [request]) = markOnce policy (markEach policy r pre) request := by
  rw [markEach_append, markEach_cons, markEach_nil]

theorem markEach_status_of_reversed (requests : List (String × Instant))
    (reversed : r.status = .reversed) : (markEach policy r requests).status = .reversed := by
  induction requests generalizing r with
  | nil => exact reversed
  | cons request requests ih => exact ih (markOnce_status request)

theorem markEach_status_eq_reversed_iff (requests : List (String × Instant)) :
    (markEach policy r requests).status = .reversed ↔ requests ≠ [] ∨ r.status = .reversed := by
  cases requests with
  | nil => simp
  | cons request requests =>
    simp only [markEach_cons, ne_eq, reduceCtorEq, not_false_eq_true, true_or, iff_true]
    exact markEach_status_of_reversed requests (markOnce_status request)

theorem samePayment_markEach (requests : List (String × Instant)) :
    r.SamePayment (markEach policy r requests) := by
  induction requests generalizing r with
  | nil => exact SamePayment.refl r
  | cons request requests ih => exact (samePayment_markOnce request).trans ih

theorem markEach_reject_of_reversed (requests : List (String × Instant))
    (reversed : r.status = .reversed) : markEach .reject r requests = r := by
  induction requests with
  | nil => rfl
  | cons request requests ih =>
    obtain ⟨reason, at_⟩ := request
    rw [markEach_cons, markOnce_refused rfl reversed, ih]

/-- Under `reject` the first request decides: it stamps an active record, and nothing after it
changes the record again. -/
theorem markEach_reject (requests : List (String × Instant)) :
    markEach .reject r requests = match requests with
      | [] => r
      | (reason, at_) :: _ => if r.status = .reversed then r else r.stamp reason at_ := by
  match requests with
  | [] => rfl
  | (reason, at_) :: requests =>
    dsimp only
    by_cases reversed : r.status = .reversed
    · rw [if_pos reversed, markEach_cons, markOnce_refused rfl reversed,
        markEach_reject_of_reversed requests reversed]
    · rw [if_neg reversed, markEach_cons, markOnce_stamps (fun refused => reversed refused.2),
        markEach_reject_of_reversed requests rfl]

theorem markEach_overwrite (requests : List (String × Instant)) :
    markEach .overwrite r requests = match requests.getLast? with
      | none => r
      | some (reason, at_) => r.stamp reason at_ := by
  induction requests using List.reverseRecOn generalizing r with
  | nil => rfl
  | append_singleton requests request _ =>
    obtain ⟨reason, at_⟩ := request
    rw [markEach_concat, List.getLast?_append_of_ne_nil _ (List.cons_ne_nil _ _),
      List.getLast?_singleton, markOnce_overwrite]
    exact (samePayment_markEach requests).stamp_eq reason at_

end Each

/-- Repeated reversal over a run of requests under one policy. After any requests `pre`, the
next request is refused with `ALREADY_REVERSED`, changing nothing, exactly under `reject` on a
reversed record, and otherwise stamps the record with its reason and time; the record is
reversed exactly when some request came or it started reversed, and stays so. Under `reject`
the first request decides the final record, under `overwrite` the last one. Every record of a
run is of the same payment. -/
theorem repeat_reversal_policy (r : PaymentRecord) (policy : RepeatReversal)
    (pre requests : List (String × Instant)) (reason : String) (at_ : Instant) :
    let s := markEach policy r pre
    (policy = .reject ∧ s.status = .reversed →
        s.markReversed reason at_ policy =
          .error (.invariant .alreadyReversed s!"Payment record {s.id} is already reversed") ∧
        markEach policy r (pre ++ [(reason, at_)]) = s) ∧
      (¬(policy = .reject ∧ s.status = .reversed) →
        s.markReversed reason at_ policy = .ok (s.stamp reason at_) ∧
        markEach policy r (pre ++ [(reason, at_)]) = s.stamp reason at_) ∧
      (s.status = .reversed ↔ pre ≠ [] ∨ r.status = .reversed) ∧
      (s.status = .reversed → (markEach policy r (pre ++ requests)).status = .reversed) ∧
      markEach .reject r requests = (match requests with
        | [] => r
        | (reason, at_) :: _ => if r.status = .reversed then r else r.stamp reason at_) ∧
      markEach .overwrite r requests = (match requests.getLast? with
        | none => r
        | some (reason, at_) => r.stamp reason at_) ∧
      r.SamePayment (markEach policy r requests) := by
  intro s
  refine ⟨fun refused => ⟨markReversed_refused refused.1 refused.2, ?_⟩,
    fun accepted => ⟨markReversed_stamps accepted, ?_⟩, markEach_status_eq_reversed_iff pre,
    fun reversed => ?_, markEach_reject requests, markEach_overwrite requests,
    samePayment_markEach requests⟩
  · rw [markEach_concat, markOnce_refused refused.1 refused.2]
  · rw [markEach_concat, markOnce_stamps accepted]
  · rw [markEach_append]
    exact markEach_status_of_reversed requests reversed

/-- A first instalment, still active. -/
def instalment : PaymentRecord :=
  new (Uuid.generated 1) (Uuid.generated 0) (Uuid.generated 103) Decimal.threeHalves
    "first instalment" ⟨19724, 0, 0⟩

/-- Under `reject`, a correction an hour after a dispute is refused and the dispute stays on
record. -/
theorem repeat_reversal_policy_of_dispute :
    let s := markEach .reject instalment [("dispute", ⟨19724, 3600, 0⟩)]
    (RepeatReversal.reject = .reject ∧ s.status = .reversed) ∧
      s.markReversed "typo fix" ⟨19724, 7200, 0⟩ .reject =
        .error (.invariant .alreadyReversed s!"Payment record {s.id} is already reversed") ∧
      markEach .reject instalment [("dispute", ⟨19724, 3600, 0⟩), ("typo fix", ⟨19724, 7200, 0⟩)] =
        s := by
  intro s
  have refused : RepeatReversal.reject = .reject ∧ s.status = .reversed := ⟨rfl, rfl⟩
  exact ⟨refused, (repeat_reversal_policy instalment .reject [("dispute", ⟨19724, 3600, 0⟩)] []
    "typo fix" ⟨19724, 7200, 0⟩).1 refused⟩

end PaymentRecord

end Subledger
