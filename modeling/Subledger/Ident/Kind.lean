import Subledger.Ident.Uuid
import Subledger.Error

/-! # Kinds of identifiers

Tenants, users and domain records are all named by UUIDs. Reading an identifier from text
reports a failure with the kind's type name in front of the reason.
-/

namespace Subledger

/-- Which kind of thing an identifier names. -/
inductive IdKind where
  /-- The tenant owning a document. -/
  | tenant
  /-- A user who confirms, cancels or approves. -/
  | user
  /-- A ledger document or a record inside one. -/
  | aggregate
  deriving BEq, Inhabited

namespace IdKind

/-- The type name used in messages. -/
def typeName : IdKind → String
  | .tenant => "TenantId"
  | .user => "UserId"
  | .aggregate => "AggregateId"

/-- Reads an identifier of this kind. -/
def parse (kind : IdKind) (s : String) : Outcome Uuid :=
  match Uuid.parse s with
  | .ok u => .ok u
  | .error e => .error (.invalidId s!"{kind.typeName}: {e.render}")

end IdKind

end Subledger
