import Subledger.Console.Stateless
import Subledger.Console.Label
import Subledger.Console.LedgerSession
import Subledger.Console.RecordsSession
import Subledger.Console.VoucherSession
import Subledger.Console.MemoSession
import Subledger.Console.BookingSession

/-! # Answering one request line

A request line is a JSON object naming its operation in `op`. The answer is written as
compact JSON with the keys of every object in order, and generated identifiers replaced by
labels.
-/

namespace Subledger

namespace Console

/-- The answer to a parsed request; the identifiers it generates are none of `taken`. -/
def answer (taken : List Uuid) (req : Json) : Json :=
  let result : Ask Json := do
    match ← Ask.text req "op" with
    | "money" => moneyRequest req
    | "percentage" => percentageRequest req
    | "parse" => parseRequest req
    | "id" => idRequest req
    | "id_facts" => idFactsRequest req
    | "expected_version" => expectedVersionRequest req
    | "policy" => policyRequest req
    | "domain_error" => domainErrorRequest req
    | "policy_from_env" => policySettingRequest req
    | "log_format" => logFormatRequest req false
    | "log_format_from_env" => logFormatRequest req true
    | "log_init" => logInitRequest req
    | "receivable" => return runSession (entryDocument .sales) taken req
    | "payable" => return runSession (entryDocument .purchases) taken req
    | "payment_records" => return runRecordsSession taken req
    | "receipt_voucher" => return runSession (voucherDocument .sales) taken req
    | "payment_voucher" => return runSession (voucherDocument .purchases) taken req
    | "credit_memo" => return runSession (memoDocument .sales) taken req
    | "debit_memo" => return runSession (memoDocument .purchases) taken req
    | "other_income" => return runSession incomeDocument taken req
    | "expense" => return runSession expenseDocument taken req
    | other => throw (Reply.badInput s!"unknown op {other}")
  match result with
  | .ok j => j
  | .error j => j

/-- The answer line for a request line. -/
def answerLine (line : String) : String :=
  match Scan.parseJson line with
  | .ok req =>
    let known := Label.known line (some req)
    let taken := known.filterMap fun id => (Uuid.parse id).toOption
    Label.relabel known (answer taken req).sorted.render
  | .error m => (Reply.badInput m).sorted.render

end Console

end Subledger
