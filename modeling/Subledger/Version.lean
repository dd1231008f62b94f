import Subledger.Error

/-! # Expected versions

Every change to a document raises its version by one. A writer states the version it expects
to change, or that any version will do; a stale expectation is a conflict.
-/

namespace Subledger

/-- The version a writer expects to find. -/
inductive ExpectedVersion where
  /-- Any version is acceptable. -/
  | any
  /-- Exactly this version. -/
  | exact (version : Nat)
  deriving BEq, Inhabited

namespace ExpectedVersion

/-- The debug form: `Any` or `Exact(n)`. -/
def render : ExpectedVersion → String
  | .any => "Any"
  | .exact v => s!"Exact({v})"

/-- Whether the actual version is acceptable. -/
def accepts : ExpectedVersion → Nat → Bool
  | .any, _ => true
  | .exact v, actual => v == actual

/-- Accepts the actual version or reports a conflict. -/
def check (e : ExpectedVersion) (actual : Nat) : Outcome Unit :=
  if e.accepts actual then .ok ()
  else .error (.conflict
    s!"optimistic concurrency check failed (expected: {e.render}, actual: {actual})")

end ExpectedVersion

end Subledger
