import Subledger.Proofs.Command

/-! # What a command gives when it goes through

`Cmd.Ensures x f P` says that whatever the command `x`, run from the source `f`, gives when it
goes through satisfies `P`; it says nothing of refusals and aborts. As for commands that do not
abort, the simp lemmas below push the property through the building blocks of a command, so
that `simp` with a command's definition leaves `P` of each result the command can reach, under
the guards that lead to it.
-/

namespace Subledger

namespace Cmd

variable {α β : Type} {f : Fresh} {P : α → Prop} {Q : β → Prop}

/-- Run from `f`, every result the command goes through with satisfies `P`. -/
def Ensures (x : Cmd α) (f : Fresh) (P : α → Prop) : Prop :=
  ∀ a f', x.run f = .ok (a, f') → P a

theorem Ensures.of_run_eq_ok {x : Cmd α} {a : α} {f' : Fresh} (ensures : x.Ensures f P)
    (success : x.run f = .ok (a, f')) : P a :=
  ensures a f' success

/-- A bind ensures `Q` when what follows each result its first command can reach does. -/
theorem ensures_bind {x : Cmd α} {g : α → Cmd β} :
    (x >>= g).Ensures f Q ↔ ∀ a f', x.run f = .ok (a, f') → (g a).Ensures f' Q := by
  simp only [Ensures, StateT.run_bind]
  cases x.run f with
  | error e => simp
  | ok p =>
    obtain ⟨a, f₁⟩ := p
    simp

@[simp] theorem ensures_pure (a : α) : (pure a : Cmd α).Ensures f P ↔ P a := by
  simp [Ensures, StateT.run_pure]

@[simp] theorem ensures_refuse (e : DomainError) : (refuse e : Cmd α).Ensures f P := by
  simp [Ensures]

@[simp] theorem ensures_check (o : Outcome α) : (check o).Ensures f P ↔ ∀ a, o = .ok a → P a := by
  cases o <;> simp [Ensures]

@[simp] theorem ensures_check_bind {o : Outcome α} {g : α → Cmd β} :
    (check o >>= g).Ensures f Q ↔ ∀ a, o = .ok a → (g a).Ensures f Q := by
  cases o <;> simp [ensures_bind]

@[simp] theorem ensures_refuse_bind {e : DomainError} {g : α → Cmd β} :
    (refuse e >>= g).Ensures f Q := by
  simp [ensures_bind]

@[simp] theorem ensures_freshId_bind {g : Uuid → Cmd β} :
    (freshId >>= g).Ensures f Q ↔ (g f.peek).Ensures f.advance Q := by
  simp [ensures_bind]

@[simp] theorem ensures_map {x : Cmd α} {g : α → β} :
    (g <$> x).Ensures f Q ↔ x.Ensures f (fun a => Q (g a)) := by
  simp only [Ensures]
  constructor
  · intro ensures a f' success
    exact ensures (g a) f' (run_map_eq_ok.mpr ⟨a, success, rfl⟩)
  · intro ensures b f' success
    obtain ⟨a, run, rfl⟩ := run_map_eq_ok.mp success
    exact ensures a f' run

@[simp] theorem ensures_seqRight {x : Cmd α} {y : Cmd β} :
    (x *> y).Ensures f Q ↔ (x >>= fun _ => y).Ensures f Q := by
  rw [seqRight_eq_bind]

@[simp] theorem ensures_ite {c : Prop} [Decidable c] {t e : Cmd α} :
    (if c then t else e).Ensures f P ↔ (c → t.Ensures f P) ∧ (¬c → e.Ensures f P) := by
  split <;> simp_all

/-! ## Unchecked arithmetic -/

variable {a b : Decimal}

@[simp] theorem ensures_plus_bind {g : Decimal → Cmd β} :
    (plus a b >>= g).Ensures f Q ↔ ∀ c, Decimal.add? a b = some c → (g c).Ensures f Q := by
  cases sum : Decimal.add? a b with
  | none => simp [ensures_bind, run_plus_overflow sum]
  | some c => simp [ensures_bind, run_plus sum]

@[simp] theorem ensures_minus_bind {g : Decimal → Cmd β} :
    (minus a b >>= g).Ensures f Q ↔ ∀ c, Decimal.sub? a b = some c → (g c).Ensures f Q := by
  cases difference : Decimal.sub? a b with
  | none => simp [ensures_bind, run_minus_overflow difference]
  | some c => simp [ensures_bind, run_minus difference]

/-! ## Outcomes

A command built on a plain outcome, such as an edit, goes through with what the outcome holds;
these two take such an outcome apart and are given to `simp` where one is met. -/

variable {ε : Type}

theorem bind_eq_ok {x : Except ε α} {g : α → Except ε β} {b : β} :
    (x >>= g) = .ok b ↔ ∃ a, x = .ok a ∧ g a = .ok b := by
  cases x <;> simp

theorem ite_eq_ok {c : Prop} [Decidable c] {x y : Except ε α} {a : α} :
    (if c then x else y) = .ok a ↔ (c ∧ x = .ok a) ∨ (¬c ∧ y = .ok a) := by
  split <;> simp_all

end Cmd

@[simp] theorem Envelope.ensures_wrap {E : Type} {f : Fresh} {P : Envelope E → Prop}
    (tenant aggregate : Uuid) (aggregateType : String) (sequence : Nat) (eventType : String)
    (occurredAt : Instant) (payload : E) :
    (wrap tenant aggregate aggregateType sequence eventType occurredAt payload).Ensures f P ↔
      P ⟨f.peek, tenant, aggregate, aggregateType, sequence, eventType, occurredAt, payload⟩ := by
  simp [Cmd.Ensures]

end Subledger
