import Subledger.Json.Value
import Subledger.Money.Basic
import Subledger.Ident.Uuid
import Subledger.Time.Instant

/-! # Writing answers

How domain values and refusals are written in answers: decimals, identifiers and instants as
strings, money as an object with its amount and currency, and refusals as an object naming
the error code, the kind of refusal and its message.
-/

namespace Subledger

namespace Json

/-- A decimal as its text. -/
def ofDecimal (d : Decimal) : Json := .str d.render

/-- An identifier in its grouped lowercase form. -/
def ofUuid (u : Uuid) : Json := .str u.render

/-- An instant in RFC 3339 form. -/
def ofInstant (t : Instant) : Json := .str t.render

/-- An optional instant, `null` when absent. -/
def ofOptInstant (t : Option Instant) : Json := match t with
  | some t => ofInstant t
  | none => .null

/-- An optional text, `null` when absent. -/
def ofOptString (s : Option String) : Json := match s with
  | some s => .str s
  | none => .null

/-- An optional identifier, `null` when absent. -/
def ofOptUuid (u : Option Uuid) : Json := match u with
  | some u => ofUuid u
  | none => .null

/-- Money as its amount and currency code. -/
def ofMoney (m : Money) : Json :=
  .obj [("amount", ofDecimal m.amount), ("currency", .str m.currency.code)]

/-- A list of values. -/
def ofList (f : α → Json) (xs : List α) : Json := .arr (xs.map f)

end Json

namespace Reply

/-- A failure that is not a domain refusal: its kind and message. -/
def failure (kind message : String) : Json :=
  .obj [("error", .str kind), ("message", .str message)]

/-- A malformed request. -/
def badInput (message : String) : Json := failure "BadInput" message

/-- A domain refusal: code, kind and message. -/
def refusal (e : DomainError) : Json :=
  .obj [("error", .str e.code.tag), ("variant", .str e.variantName), ("message", .str e.message)]

/-- `{"ok": value}` for a success, the refusal otherwise. -/
def okOr (f : α → Json) : Outcome α → Json
  | .ok v => .obj [("ok", f v)]
  | .error e => refusal e

/-- Adds fields to an object answer. -/
def extend (j : Json) (more : List (String × Json)) : Json :=
  match j with
  | .obj fields => .obj (fields ++ more)
  | other => other

end Reply

end Subledger
