import Subledger.Error
import Subledger.Ident.Uuid
import Subledger.Decimal.Arith

/-! # Commands

A command of the domain may refuse, may abort on an unchecked overflow, and may draw fresh
identifiers for the records it creates. Fresh identifiers come from a counter, so a run is
reproducible, and a run never draws an identifier it was told is taken: one that already
stands for something else.
-/

namespace Subledger

namespace Uuid

/-- The `n`-th generated identifier: a version-7 layout with the counter in its low bits. -/
def generated (n : Nat) : Uuid :=
  let v := 0x019b2d4e5f6070818293a4b5c6d7e8f9 + n % Nat.pow 2 48
  if h : v < Nat.pow 2 128 then ⟨v, h⟩ else nil

end Uuid

/-- Where fresh identifiers come from: the next counter value, and the identifiers that must
not be drawn. -/
structure Fresh where
  next : Nat
  taken : List Uuid

namespace Fresh

/-- A source that starts at the first counter value and avoids the given identifiers. -/
def avoiding (taken : List Uuid) : Fresh := ⟨0, taken⟩

/-- The first counter value from `n` on whose identifier is not taken, looking at no more
than `taken.length + 1` values: of that many distinct identifiers one is free. -/
def firstFree (taken : List Uuid) (n : Nat) : Nat :=
  go n (taken.length + 1)
where
  /-- Tries the values from `n` on, `fuel` of them. -/
  go (n : Nat) : Nat → Nat
    | 0 => n
    | fuel + 1 => if taken.contains (Uuid.generated n) then go (n + 1) fuel else n

end Fresh

/-- A domain command: draws fresh identifiers and may fail. -/
abbrev Cmd := StateT Fresh (Except Failure)

namespace Cmd

/-- Draws a fresh identifier, skipping the taken ones. -/
def freshId : Cmd Uuid := do
  let f ← get
  let n := Fresh.firstFree f.taken f.next
  set { f with next := n + 1 }
  pure (Uuid.generated n)

/-- Refuses the command. -/
def refuse (e : DomainError) : Cmd α := throw (.refused e)

/-- Runs a domain check, refusing with its error. -/
def check (o : Outcome α) : Cmd α :=
  match o with
  | .ok v => pure v
  | .error e => refuse e

/-- Refuses with a validation error when the condition fails. -/
def require (ok : Bool) (code : ErrorCode) (message : String) : Cmd Unit :=
  if ok then pure () else refuse (.validation code message)

/-- The sum of two decimals where the program does not expect an overflow: one aborts. -/
def plus (a b : Decimal) : Cmd Decimal :=
  match Decimal.add? a b with
  | some v => pure v
  | none => throw (.overflowed "Addition overflowed")

/-- The difference of two decimals where the program does not expect an overflow: one
aborts. -/
def minus (a b : Decimal) : Cmd Decimal :=
  match Decimal.sub? a b with
  | some v => pure v
  | none => throw (.overflowed "Subtraction overflowed")

end Cmd

end Subledger
