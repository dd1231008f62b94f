import Subledger.Error
import Subledger.Tags
import Subledger.Text.Blank

/-! # Ledger policy

What marking an already reversed payment record does: refuse (the first reversal stays on
record) or overwrite its reason and time. Refusing is the default, also when a configured
value does not name a policy.
-/

namespace Subledger

/-- The treatment of a repeated reversal. -/
inductive RepeatReversal where
  | reject | overwrite
  deriving BEq, Inhabited, DecidableEq

namespace RepeatReversal

/-- The policies and their lowercase tags. -/
def tags : TagSet RepeatReversal where
  all := [.reject, .overwrite]
  tag
    | .reject => "reject"
    | .overwrite => "overwrite"

/-- The tag of a policy. -/
def tag (p : RepeatReversal) : String := tags.tag p

/-- Reads a policy, ignoring blank space around it and ASCII letter case. -/
def parse (s : String) : Outcome RepeatReversal :=
  let key := Text.asciiLower (Text.trim s)
  match tags.find? key with
  | some v => .ok v
  | none => .error (.validation .invalidPolicy s!"unknown repeat-reversal policy: {key}")

/-- The policy a configured value selects: the default when unset or not a policy. -/
def ofSetting (value : Option String) : RepeatReversal :=
  match value with
  | none => .reject
  | some raw =>
    match parse raw with
    | .ok p => p
    | .error _ => .reject

end RepeatReversal

end Subledger
