import Subledger.Command
import Subledger.Time.Instant

/-! # Event envelopes

Every change a document makes is announced as an event, sealed in an envelope that says which
tenant and document it belongs to, the document's version after the change, the kind of event
and when it happened. Each envelope gets a fresh identifier.
-/

namespace Subledger

/-- An event with where and when it belongs. -/
structure Envelope (E : Type) where
  eventId : Uuid
  tenant : Uuid
  aggregate : Uuid
  aggregateType : String
  /-- The document's version after the change. -/
  sequence : Nat
  eventType : String
  occurredAt : Instant
  payload : E

/-- The schema version of every event. -/
def eventSchemaVersion : Nat := 1

namespace Envelope

/-- Wraps an event with a fresh identifier. -/
def wrap (tenant aggregate : Uuid) (aggregateType : String) (sequence : Nat)
    (eventType : String) (occurredAt : Instant) (payload : E) : Cmd (Envelope E) := do
  pure ⟨← Cmd.freshId, tenant, aggregate, aggregateType, sequence, eventType, occurredAt, payload⟩

end Envelope

end Subledger
