import Subledger.Event

/-! # Running commands

What running a command against a source of fresh identifiers gives, one fact per building
block: a check passes its value on or refuses, a refusal leaves no state, drawing an identifier
moves the counter past it, and an unchecked sum or difference that fits goes through. The
proofs about documents take commands apart with these and never unfold the monad.
-/

namespace Subledger

namespace Fresh

/-- The identifier a source hands out next. -/
def peek (f : Fresh) : Uuid := Uuid.generated (firstFree f.taken f.next)

/-- The source after it handed out an identifier. -/
def advance (f : Fresh) : Fresh := { f with next := firstFree f.taken f.next + 1 }

end Fresh

namespace Cmd

variable {α β ε : Type} {f : Fresh} {a b c : Decimal}

@[simp] theorem ok_bind {x : α} {g : α → Except ε β} : (Except.ok x >>= g) = g x := rfl

@[simp] theorem error_bind {e : ε} {g : α → Except ε β} :
    (Except.error e >>= g : Except ε β) = .error e := rfl

@[simp] theorem pure_eq_ok {x : α} : (pure x : Except ε α) = .ok x := rfl

@[simp] theorem map_ok {x : α} {g : α → β} : (g <$> (Except.ok x : Except ε α)) = .ok (g x) :=
  rfl

@[simp] theorem map_error {e : ε} {g : α → β} :
    (g <$> (Except.error e : Except ε α)) = .error e := rfl

@[simp] theorem throw_eq_error {e : ε} : (throw e : Except ε α) = .error e := rfl

@[simp] theorem run_throw {e : Failure} : (throw e : Cmd α).run f = .error e := rfl

@[simp] theorem run_refuse {e : DomainError} : (refuse e : Cmd α).run f = .error (.refused e) := rfl

@[simp] theorem run_check_ok {x : α} : (check (.ok x)).run f = .ok (x, f) := rfl

@[simp] theorem run_check_error {e : DomainError} :
    (check (.error e) : Cmd α).run f = .error (.refused e) := rfl

theorem run_check_bind_eq_ok {o : Outcome α} {g : α → Cmd β} {r : β × Fresh} :
    (check o >>= g).run f = .ok r ↔ ∃ x, o = .ok x ∧ (g x).run f = .ok r := by
  cases o with
  | error e => simp [check, refuse]
  | ok x => simp [check]

theorem run_map_eq_ok {x : Cmd α} {g : α → β} {y : β} {f' : Fresh} :
    (g <$> x).run f = .ok (y, f') ↔ ∃ r, x.run f = .ok (r, f') ∧ g r = y := by
  simp only [StateT.run_map]
  cases x.run f with
  | error e => simp
  | ok p =>
    obtain ⟨r, f₁⟩ := p
    simp only [Functor.map, Except.map, Except.ok.injEq, Prod.mk.injEq]
    constructor
    · rintro ⟨rfl, rfl⟩
      exact ⟨r, ⟨rfl, rfl⟩, rfl⟩
    · rintro ⟨r', ⟨rfl, rfl⟩, rfl⟩
      exact ⟨rfl, rfl⟩

@[simp] theorem run_freshId : freshId.run f = .ok (f.peek, f.advance) := rfl

@[simp] theorem run_plus (sum : Decimal.add? a b = some c) : (plus a b).run f = .ok (c, f) := by
  simp [plus, sum]

@[simp] theorem run_minus (difference : Decimal.sub? a b = some c) :
    (minus a b).run f = .ok (c, f) := by
  simp [minus, difference]

theorem run_plus_overflow (overflow : Decimal.add? a b = none) :
    (plus a b).run f = .error (.overflowed "Addition overflowed") := by
  simp [plus, overflow]

theorem run_minus_overflow (overflow : Decimal.sub? a b = none) :
    (minus a b).run f = .error (.overflowed "Subtraction overflowed") := by
  simp [minus, overflow]

end Cmd

namespace Envelope

variable {E : Type} {f : Fresh}

@[simp] theorem run_wrap (tenant aggregate : Uuid) (aggregateType : String) (sequence : Nat)
    (eventType : String) (occurredAt : Instant) (payload : E) :
    (wrap tenant aggregate aggregateType sequence eventType occurredAt payload).run f =
      .ok (⟨f.peek, tenant, aggregate, aggregateType, sequence, eventType, occurredAt, payload⟩,
        f.advance) := rfl

end Envelope

end Subledger
