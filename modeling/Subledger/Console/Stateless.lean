import Subledger.Console.Input
import Subledger.Wire.Leaf
import Subledger.Ledger.Status
import Subledger.Ledger.Policy
import Subledger.Voucher.Status
import Subledger.Memo.Status
import Subledger.Income.Status
import Subledger.Expense.Status
import Subledger.Version
import Subledger.LogFormat

/-! # Requests without a session

Money arithmetic, percentages, reading enumerations, identifiers and policies, building domain
errors, version checks and settings: each request is answered on its own.
-/

namespace Subledger

namespace Console

/-- Money as an answer: the object and its display text. -/
def moneyAnswer (m : Money) : Json :=
  .obj [("money", Json.ofMoney m), ("display", .str m.render)]

/-- A money result or its refusal. -/
def moneyOutcome : Outcome Money → Json
  | .ok m => moneyAnswer m
  | .error e => Reply.refusal e

/-- Answers a money request: the function `fn` applied to the money `a`, read in that order. -/
def moneyRequest (req : Json) : Ask Json := do
  let fn ← Ask.text req "fn"
  let a ← Ask.money req "a"
  match fn with
  | "add" => return moneyOutcome (a.add (← Ask.money req "b"))
  | "sub" => return moneyOutcome (a.sub (← Ask.money req "b"))
  | "multiply" => return moneyOutcome (a.multiply (← Ask.decimal req "factor"))
  | "negate" => return moneyAnswer a.negate
  | "abs" => return moneyAnswer a.abs
  | "round" => return moneyAnswer (a.round (← Ask.nat32 req "places"))
  | "percentage_of" =>
    let b ← Ask.money req "b"
    return match a.percentageOf b with
      | .ok p => Json.ofDecimal p
      | .error e => Reply.refusal e
  | "inspect" =>
    return .obj [("money", Json.ofMoney a), ("display", .str a.render),
      ("amount", Json.ofDecimal a.amount), ("currency", .str a.currency.code),
      ("is_zero", .bool a.isZero), ("is_positive", .bool a.isPositive),
      ("is_negative", .bool a.isNegative)]
  | "zero" => return moneyAnswer (Money.zero a.currency)
  | "cny" => return moneyAnswer (Money.cny a.amount)
  | other => throw (Reply.badInput s!"unknown money fn {other}")

/-- Answers a percentage request. -/
def percentageRequest (req : Json) : Ask Json := do
  let part ← Ask.decimal req "part"
  let whole ← Ask.decimal req "whole"
  return match percentage part whole with
    | .ok p => Json.ofDecimal p
    | .error e => Reply.refusal e

/-- The answer for a read enumeration value: its text and tag, and more facts. -/
def tagAnswer (tag : String) (more : List (String × Json)) : Json :=
  .obj ([("value", .str tag), ("serde", .str tag)] ++ more)

/-- Answers a request to read an enumeration value of type `type`. -/
def parseRequest (req : Json) : Ask Json := do
  let type ← Ask.text req "type"
  let value ← Ask.text req "value"
  let answer (o : Outcome Json) : Json := match o with
    | .ok j => j
    | .error e => Reply.refusal e
  match type with
  | "currency" => return answer ((Currency.parse value).map fun c =>
      tagAnswer c.code [("display", .str c.code)])
  | "ledger_status" => return answer ((LedgerStatus.parse value).map fun s =>
      tagAnswer s.tag [("is_terminal", .bool s.isTerminal),
        ("can_apply_payment", .bool s.canApplyPayment)])
  | "voucher_status" => return answer ((VoucherStatus.parse value).map fun s =>
      tagAnswer s.tag [("is_terminal", .bool s.isTerminal), ("can_confirm", .bool s.canConfirm),
        ("can_allocate", .bool s.canAllocate), ("can_cancel", .bool s.canCancel)])
  | "memo_status" => return answer ((MemoStatus.parse value).map fun s =>
      tagAnswer s.tag [("is_terminal", .bool s.isTerminal), ("can_apply", .bool s.canApply)])
  | "payment_method" => return answer ((PaymentMethod.parse value).map fun m => tagAnswer m.tag [])
  | "income_category" =>
    return answer ((IncomeCategory.parse value).map fun c => tagAnswer c.tag [])
  | "expense_category" =>
    return answer ((ExpenseCategory.parse value).map fun c => tagAnswer c.tag [])
  | "receivable_source_type" => return answer ((SourceType.parse .sales value).map fun t =>
      tagAnswer ((SourceType.tags .sales).tag t) [])
  | "payable_source_type" => return answer ((SourceType.parse .purchases value).map fun t =>
      tagAnswer ((SourceType.tags .purchases).tag t) [])
  | "repeat_reversal" => return answer ((RepeatReversal.parse value).map fun p =>
      .obj [("serde", .str p.tag)])
  | other => throw (Reply.badInput s!"unknown type {other}")

/-- The kind of identifier a request names. -/
def idKind (req : Json) : Ask IdKind := do
  match ← Ask.text req "kind" with
  | "tenant" => return .tenant
  | "user" => return .user
  | "aggregate" => return .aggregate
  | other => throw (Reply.badInput s!"unknown id kind {other}")

/-- The facts every identifier answer has. -/
def idFacts (u : Uuid) : List (String × Json) :=
  [("display", .str u.render), ("is_nil", .bool u.isNil), ("serde", Json.ofUuid u)]

/-- Answers a request to read an identifier. -/
def idRequest (req : Json) : Ask Json := do
  let kind ← idKind req
  let value ← Ask.text req "value"
  return match kind.parse value with
    | .ok u => .obj (idFacts u)
    | .error e => Reply.refusal e

/-- Answers a request for the other entry points of an identifier type: the nil identifier,
round trips, and for document identifiers the typed wrapper. Fresh identifiers are never
nil. -/
def idFactsRequest (req : Json) : Ask Json := do
  let kind ← idKind req
  let value ← Ask.text req "value"
  match kind.parse value with
  | .error e => return Reply.refusal e
  | .ok u =>
    let typed := if kind == .aggregate then
        [("typed", Json.obj [("display", .str u.render), ("is_nil", .bool u.isNil),
          ("same", .bool true), ("generated_is_nil", .bool false)])]
      else []
    return .obj (idFacts u ++ [("round_trip_equal", .bool true), ("nil", .str Uuid.nil.render),
      ("nil_is_nil", .bool Uuid.nil.isNil), ("new_is_nil", .bool false),
      ("default_is_nil", .bool false)] ++ typed)

/-- Answers a version check. -/
def expectedVersionRequest (req : Json) : Ask Json := do
  let expected ← Ask.optNat req "expected"
  let actual ← Ask.nat req "actual"
  let e : ExpectedVersion := match expected with
    | some v => .exact v
    | none => .any
  return .obj [("matches", .bool (e.accepts actual)), ("check", Reply.okOr (fun () => .null) (e.check actual))]

/-- How the ledger policy is stored: one field, defaulted as a whole. -/
def policyShape : Shape :=
  .record "LedgerPolicy" (.cons "repeat_reversal" (Wire.tagged RepeatReversal.tags (some .reject))
    .defaulted .nil)

/-- The policy a decoded policy document holds. -/
def policyOf (v : policyShape.Denote) : RepeatReversal := v.1

/-- Answers a request to read a policy document. -/
def policyRequest (req : Json) : Ask Json := do
  let text ← Ask.text req "json"
  return match policyShape.decodeText text with
    | .ok v => .obj [("repeat_reversal", .str (policyOf v).tag)]
    | .error m => Reply.failure "Deserialize" m

/-- Answers a request to build a domain error. -/
def domainErrorRequest (req : Json) : Ask Json := do
  let ctor ← Ask.text req "ctor"
  let message ← Ask.textOr req "message"
  let code : Ask ErrorCode := do
    let tag ← Ask.text req "code"
    match ErrorCode.ofTag? tag with
    | some c => return c
    | none => throw (Reply.badInput s!"unknown code {tag}")
  let e : DomainError ← match ctor with
    | "validation" => code.map (DomainError.validation · message)
    | "invariant" => code.map (DomainError.invariant · message)
    | "invalid_id" => pure (DomainError.invalidId message)
    | "conflict" => pure (DomainError.conflict message)
    | "not_found" => pure DomainError.notFound
    | "invalid_state" => pure (DomainError.invalidState message)
    | other => throw (Reply.badInput s!"unknown ctor {other}")
  return .obj [("code", .str e.code.tag), ("code_display", .str e.code.tag),
    ("variant", .str e.variantName), ("message", .str e.message), ("display", .str e.render)]

/-- The setting a request gives in `value`, text or `null`; a setting stored in the
environment cannot hold a NUL character. -/
def settingValue (req : Json) (fromEnvironment : Bool) : Ask (Option String) := do
  let value ← Ask.optText req "value"
  if fromEnvironment && (value.getD "").any (· == Char.ofNat 0) then
    throw (Reply.badInput "value must not contain NUL")
  return value

/-- Answers a request for the policy a setting in the environment selects. -/
def policySettingRequest (req : Json) : Ask Json := do
  let value ← settingValue req true
  return .obj [("repeat_reversal", .str (RepeatReversal.ofSetting value).tag)]

/-- Answers a request for the log format a setting selects, given directly or through the
environment. -/
def logFormatRequest (req : Json) (fromEnvironment : Bool) : Ask Json := do
  let value ← settingValue req fromEnvironment
  return .str (LogFormat.ofSetting value).name

/-- Answers a request to set up logging in the format named by `format`. -/
def logInitRequest (req : Json) : Ask Json := do
  let _ ← Ask.text req "format"
  return .null

end Console

end Subledger
