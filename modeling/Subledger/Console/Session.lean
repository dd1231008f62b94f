import Subledger.Console.Input
import Subledger.Command
import Subledger.Version

/-! # Sessions

A session opens a document, by its factory or by loading a stored state, and then runs a list
of steps against it. Each step answers with its result and the state after it, or with its
refusal and the unchanged state. An unchecked overflow ends the session: its step answers with
the overflow and no later step runs. Two steps exist for every document: `check_version`
compares an expected version with the current one, and `getters` reads every accessor.
-/

namespace Subledger

namespace Console

/-- How a step ended. -/
inductive StepEnd (S : Type) where
  /-- The step succeeded with a result and a new state. -/
  | done (result : Json) (state : S)
  /-- The step was refused; the answer says why and the state is unchanged. -/
  | refused (answer : Json)
  /-- An unchecked overflow ended the session. -/
  | aborted (message : String)

/-- Runs a step (request fields are converted first, then the command runs) with a source of
fresh identifiers. -/
def execStep (x : Ask (Cmd (Json × S))) (fresh : Fresh) : StepEnd S × Fresh :=
  match x with
  | .error answer => (.refused answer, fresh)
  | .ok cmd =>
    match cmd.run fresh with
    | .ok ((result, s), fresh') => (.done result s, fresh')
    | .error (.refused e) => (.refused (Reply.refusal e), fresh)
    | .error (.overflowed m) => (.aborted m, fresh)

/-- A step that only converts its fields and computes a result; the state stays. -/
def queryStep (state : S) (x : Ask (Except Failure Json)) : Ask (Cmd (Json × S)) := do
  let r ← x
  pure (do
    match r with
    | .ok j => pure (j, state)
    | .error f => throw f)

/-- A step that changes the state without a result. -/
def updateStep (x : Ask (Outcome S)) : Ask (Cmd (Json × S)) := do
  let r ← x
  pure (do
    let s ← Cmd.check r
    pure (.null, s))

/-- What a session needs to know about a kind of document. -/
structure Document (S : Type) where
  /-- The stored form of a state. -/
  store : S → Json
  /-- Reads a stored state back. -/
  load : Json → Except String S
  /-- Creates a document from request fields, giving the answer and the state. -/
  create : Json → Ask (Cmd (Json × S))
  /-- The current version. -/
  version : S → Nat
  /-- Every accessor of the state. -/
  getters : S → Except Failure Json
  /-- The document-specific steps, by name; `none` for an unknown step. -/
  step : S → String → Json → Option (Ask (Cmd (Json × S)))

/-- The answer for a step that ended, with the state it leaves. -/
def stepAnswer (store : S → Json) (before : S) : StepEnd S → Json × Option S
  | .done result s => (.obj [("ok", result), ("state", store s)], some s)
  | .refused answer => (Reply.extend answer [("state", store before)], some before)
  | .aborted m => (Reply.failure "Panic" m, none)

/-- Runs one step of a session. -/
def runStep (doc : Document S) (state : S) (step : Json) : Ask (Cmd (Json × S)) :=
  match Ask.field step "do" with
  | .error answer => .error answer
  | .ok (.str "check_version") => do
    let expected ← Ask.optNat step "expected"
    let e : ExpectedVersion := match expected with
      | some v => .exact v
      | none => .any
    pure (do
      Cmd.check (e.check (doc.version state))
      pure (.obj [("matches", .bool true)], state))
  | .ok (.str "getters") => queryStep state (pure (doc.getters state))
  | .ok (.str name) =>
    match doc.step state name step with
    | some run => run
    | none => .error (Reply.badInput s!"unknown step {name}")
  | .ok _ => .error (Ask.mustBe "do" "a string")

/-- Runs the steps in order, each read by `run`, until they end or one aborts. -/
def runStepsWith (store : S → Json) (run : S → Json → Ask (Cmd (Json × S))) :
    S → Fresh → List Json → List Json
  | _, _, [] => []
  | state, fresh, step :: rest =>
    let (ended, fresh') := execStep (run state step) fresh
    match stepAnswer store state ended with
    | (answer, some state') => answer :: runStepsWith store run state' fresh' rest
    | (answer, none) => [answer]

/-- Runs the steps of a document in order until they end or one aborts. -/
def runSteps (doc : Document S) : S → Fresh → List Json → List Json :=
  runStepsWith doc.store (runStep doc)

/-- Answers a session request: load when the request has a `load` field, even a `null` one,
otherwise create; then the steps. Fresh identifiers avoid the `taken` ones. -/
def runSession (doc : Document S) (taken : List Uuid) (req : Json) : Json :=
  let steps := match Ask.get req "steps" with
    | .arr items => items
    | _ => []
  let opened : Json × Option (S × Fresh) :=
    match req.field? "load" with
    | none =>
      match (execStep (doc.create (Ask.get req "create")) (Fresh.avoiding taken) :
          StepEnd S × Fresh) with
      | (.done answer s, fresh) =>
        (.obj [("ok", answer), ("state", doc.store s)], some (s, fresh))
      | (.refused answer, _) => (answer, none)
      | (.aborted m, _) => (Reply.failure "Panic" m, none)
    | some stored =>
      match doc.load stored with
      | .ok s => (.obj [("ok", .null), ("state", doc.store s)], some (s, Fresh.avoiding taken))
      | .error m => (Reply.failure "Deserialize" m, none)
  match opened with
  | (answer, some (s, fresh)) =>
    .obj [("create", answer), ("steps", .arr (runSteps doc s fresh steps))]
  | (answer, none) => .obj [("create", answer), ("steps", .arr [])]

/-- The accessors every document shares. -/
def commonGetters (id tenant : Uuid) (aggregateType : String) (version : Nat) : Json :=
  .obj [("root_id", Json.ofUuid id), ("version", Json.ofNat version),
    ("tenant_id", Json.ofUuid tenant), ("aggregate_id", Json.ofUuid id),
    ("aggregate_type", .str aggregateType),
    ("expected_version_of", .str (ExpectedVersion.exact version).render)]

end Console

end Subledger
