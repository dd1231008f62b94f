import Subledger.Proofs.Command

/-! # Commands that do not abort

A command aborts only through an unchecked sum or difference that overflows; every other
failure is a refusal of the domain. `Cmd.NoAbortFrom x f` says that `x`, run from the source
`f`, goes through or refuses. The simp lemmas below push the property through the building
blocks of a command, each bind asking it of what follows only for the results the command
can actually reach, so that for a command without unchecked arithmetic `simp` with its
definition proves that it never aborts, and for one with such arithmetic it leaves exactly the
sums and differences that must fit.
-/

namespace Subledger

namespace Cmd

variable {α β : Type} {f f' : Fresh}

/-- Run from `f`, the command goes through or refuses: it does not abort. -/
def NoAbortFrom (x : Cmd α) (f : Fresh) : Prop := ∀ m, x.run f ≠ .error (.overflowed m)

/-- The command does not abort, whatever the source of identifiers. -/
def NoAbort (x : Cmd α) : Prop := ∀ f, x.NoAbortFrom f

theorem noAbortFrom_of_run_eq_ok {x : Cmd α} {r : α × Fresh} (success : x.run f = .ok r) :
    x.NoAbortFrom f := by
  intro m aborted
  rw [success] at aborted
  cases aborted

theorem NoAbortFrom.eq_refused {x : Cmd α} {failure : Failure} (safe : x.NoAbortFrom f)
    (failed : x.run f = .error failure) : ∃ e, failure = .refused e := by
  cases failure with
  | refused e => exact ⟨e, rfl⟩
  | overflowed m => exact absurd failed (safe m)

@[simp] theorem noAbortFrom_pure (a : α) : (pure a : Cmd α).NoAbortFrom f :=
  noAbortFrom_of_run_eq_ok rfl

@[simp] theorem noAbortFrom_refuse (e : DomainError) : (refuse e : Cmd α).NoAbortFrom f := by
  intro m aborted
  simp at aborted

@[simp] theorem noAbortFrom_check (o : Outcome α) : (check o).NoAbortFrom f := by
  intro m aborted
  cases o <;> simp at aborted

@[simp] theorem noAbortFrom_freshId : freshId.NoAbortFrom f :=
  noAbortFrom_of_run_eq_ok run_freshId

theorem run_check_eq_ok {o : Outcome α} {a : α} :
    (check o).run f = .ok (a, f') ↔ o = .ok a ∧ f' = f := by
  cases o <;> simp [eq_comm]

/-- A bind does not abort when its first command does not, nor what follows any result that
command can reach. -/
theorem noAbortFrom_bind {x : Cmd α} {g : α → Cmd β} :
    (x >>= g).NoAbortFrom f ↔
      x.NoAbortFrom f ∧ ∀ a f', x.run f = .ok (a, f') → (g a).NoAbortFrom f' := by
  simp only [NoAbortFrom, StateT.run_bind]
  cases x.run f with
  | error e => cases e <;> simp
  | ok p =>
    obtain ⟨a, f₁⟩ := p
    simp

/-! The bind lemma for each building block that can start a command; `simp` puts binds in
right-nested form, so these are the cases it meets. -/

@[simp] theorem noAbortFrom_check_bind {o : Outcome α} {g : α → Cmd β} :
    (check o >>= g).NoAbortFrom f ↔ ∀ a, o = .ok a → (g a).NoAbortFrom f := by
  simp [noAbortFrom_bind, run_check_eq_ok]

@[simp] theorem noAbortFrom_refuse_bind {e : DomainError} {g : α → Cmd β} :
    (refuse e >>= g).NoAbortFrom f := by
  simp [noAbortFrom_bind]

@[simp] theorem noAbortFrom_freshId_bind {g : Uuid → Cmd β} :
    (freshId >>= g).NoAbortFrom f ↔ (g f.peek).NoAbortFrom f.advance := by
  simp [noAbortFrom_bind]

@[simp] theorem noAbortFrom_map {x : Cmd α} {g : α → β} :
    (g <$> x).NoAbortFrom f ↔ x.NoAbortFrom f := by
  simp only [NoAbortFrom, StateT.run_map]
  cases x.run f with
  | error e => cases e <;> simp [Functor.map, Except.map]
  | ok p => simp [Functor.map, Except.map]

@[simp] theorem noAbortFrom_seqRight {x : Cmd α} {y : Cmd β} :
    (x *> y).NoAbortFrom f ↔ (x >>= fun _ => y).NoAbortFrom f := by
  rw [seqRight_eq_bind]

@[simp] theorem noAbortFrom_ite {c : Prop} [Decidable c] {t e : Cmd α} :
    (if c then t else e).NoAbortFrom f ↔ (c → t.NoAbortFrom f) ∧ (¬c → e.NoAbortFrom f) := by
  split <;> simp_all

/-! ## Unchecked arithmetic -/

variable {a b c : Decimal}

@[simp] theorem noAbortFrom_plus : (plus a b).NoAbortFrom f ↔ (Decimal.add? a b).isSome := by
  cases sum : Decimal.add? a b with
  | none => simp [NoAbortFrom, run_plus_overflow sum]
  | some c => simp [noAbortFrom_of_run_eq_ok (run_plus sum)]

@[simp] theorem noAbortFrom_minus : (minus a b).NoAbortFrom f ↔ (Decimal.sub? a b).isSome := by
  cases difference : Decimal.sub? a b with
  | none => simp [NoAbortFrom, run_minus_overflow difference]
  | some c => simp [noAbortFrom_of_run_eq_ok (run_minus difference)]

@[simp] theorem noAbortFrom_plus_bind {g : Decimal → Cmd β} :
    (plus a b >>= g).NoAbortFrom f ↔ ∃ c, Decimal.add? a b = some c ∧ (g c).NoAbortFrom f := by
  cases sum : Decimal.add? a b with
  | none => simp [NoAbortFrom, run_plus_overflow sum]
  | some c => simp [noAbortFrom_bind, noAbortFrom_of_run_eq_ok (run_plus sum), run_plus sum]

@[simp] theorem noAbortFrom_minus_bind {g : Decimal → Cmd β} :
    (minus a b >>= g).NoAbortFrom f ↔ ∃ c, Decimal.sub? a b = some c ∧ (g c).NoAbortFrom f := by
  cases difference : Decimal.sub? a b with
  | none => simp [NoAbortFrom, run_minus_overflow difference]
  | some c =>
    simp [noAbortFrom_bind, noAbortFrom_of_run_eq_ok (run_minus difference), run_minus difference]

end Cmd

@[simp] theorem Envelope.noAbortFrom_wrap {E : Type} {f : Fresh} (tenant aggregate : Uuid)
    (aggregateType : String) (sequence : Nat) (eventType : String) (occurredAt : Instant)
    (payload : E) :
    (wrap tenant aggregate aggregateType sequence eventType occurredAt payload).NoAbortFrom f :=
  Cmd.noAbortFrom_of_run_eq_ok (run_wrap ..)

end Subledger
