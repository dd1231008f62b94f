import Subledger.Console.Reply
import Subledger.Decimal.Parse
import Subledger.Ident.Kind

/-! # Reading requests

A request is a JSON object; its fields are converted one at a time, and the first field that
does not convert ends the request with an answer saying why: a malformed request, a decimal
or instant that does not read, or the domain's own refusal (an unknown currency, an
identifier that does not read).
-/

namespace Subledger

/-- A conversion of request fields; a failure is the answer to give. -/
abbrev Ask := Except Json

namespace Ask

/-- A domain outcome, its refusal becoming the answer. -/
def outcome : Outcome α → Ask α
  | .ok v => .ok v
  | .error e => .error (Reply.refusal e)

/-- The value of a field, `null` when absent. -/
def get (j : Json) (key : String) : Json := (j.field? key).getD .null

/-- The refusal of a field that is absent. -/
def missing (key : String) : Json := Reply.badInput s!"missing field {key}"

/-- The refusal of a field that holds the wrong kind of value. -/
def mustBe (key what : String) : Json := Reply.badInput s!"field {key} must be {what}"

/-- The value of a field that must be present; `null` counts as present. -/
def field (j : Json) (key : String) : Ask Json :=
  match j.field? key with
  | some v => .ok v
  | none => .error (missing key)

/-- The value of a field that may be left out, absent and `null` alike giving `none`. -/
def given? (j : Json) (key : String) : Option Json :=
  match j.field? key with
  | none | some .null => none
  | some v => some v

/-- A required text field. -/
def text (j : Json) (key : String) : Ask String := do
  match ← field j key with
  | .str s => .ok s
  | _ => .error (mustBe key "a string")

/-- An optional text field, empty when absent or `null`. -/
def textOr (j : Json) (key : String) : Ask String :=
  match given? j key with
  | none => .ok ""
  | some (.str s) => .ok s
  | some _ => .error (mustBe key "a string")

/-- A required text field that may be `null`. -/
def optText (j : Json) (key : String) : Ask (Option String) := do
  match ← field j key with
  | .str s => .ok (some s)
  | .null => .ok none
  | _ => .error (mustBe key "a string")

/-- A required unsigned integer field. -/
def nat (j : Json) (key : String) : Ask Nat := do
  match ← field j key with
  | .num (.unsigned n) => .ok n
  | _ => .error (mustBe key "a non-negative integer")

/-- An unsigned integer field below `2 ^ 32`. -/
def nat32 (j : Json) (key : String) : Ask Nat := do
  let n ← nat j key
  if n < Nat.pow 2 32 then .ok n else .error (Reply.badInput s!"{key} must fit in u32")

/-- A required unsigned integer field that may be `null`. -/
def optNat (j : Json) (key : String) : Ask (Option Nat) := do
  match ← field j key with
  | .num (.unsigned n) => .ok (some n)
  | .null => .ok none
  | _ => .error (mustBe key "a non-negative integer")

/-- A decimal given as text, in scientific notation when it has an `e` or `E`. -/
def decimal (j : Json) (key : String) : Ask Decimal := do
  let s ← text j key
  match Decimal.parseAny s with
  | .ok d => .ok d
  | .error e => .error (Reply.failure "BadDecimal" e.render)

/-- An instant given as RFC 3339 text. -/
def instant (j : Json) (key : String) : Ask Instant := do
  let s ← text j key
  match Instant.parse s with
  | .ok t => .ok t
  | .error e => .error (Reply.failure "BadTime" e.render)

/-- An instant that may be absent or `null`. -/
def optInstant (j : Json) (key : String) : Ask (Option Instant) :=
  match given? j key with
  | none => .ok none
  | some (.str _) => some <$> instant j key
  | some _ => .error (mustBe key "a timestamp string or null")

/-- Money given as an object of an amount and a currency code (yuan when the code is absent
or `null`, refused when it is not text); the amount is read first. -/
def money (j : Json) (key : String) : Ask Money := do
  let m ← field j key
  match m with
  | .obj _ => pure ()
  | _ => .error (mustBe key "a money object")
  let amount ← decimal m "amount"
  let currency ← match get m "currency" with
    | .str c => outcome (Currency.parse c)
    | .null => .ok .cny
    | _ => .error (Reply.badInput "currency must be a string")
  .ok ⟨amount, currency⟩

/-- An identifier of the given kind. -/
def uuid (kind : IdKind) (j : Json) (key : String) : Ask Uuid := do
  outcome (kind.parse (← text j key))

/-- An identifier of the given kind, or `none` when the field holds no text. -/
def optUuid (kind : IdKind) (j : Json) (key : String) : Ask (Option Uuid) :=
  match get j key with
  | .str _ => some <$> uuid kind j key
  | _ => .ok none

/-- A required list of texts. -/
def texts (j : Json) (key : String) : Ask (List String) := do
  match ← field j key with
  | .arr items =>
    match items.mapM Json.string? with
    | some strings => .ok strings
    | none => .error (Reply.badInput s!"field {key} must hold strings")
  | _ => .error (Reply.badInput s!"field {key} must hold strings")

end Ask

end Subledger
